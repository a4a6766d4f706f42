import RuntimeLauncher.Toml.Scalar

/-! Reading TOML documents: values, lines, and the table that they make. -/
namespace RuntimeLauncher.Toml

abbrev Reader := Text → Option (Value × Text)

def items? (item : Reader) : Nat → Text → Option (List Value × Text)
  | 0, _ => none
  | more + 1, t =>
    match skipFiller false t with
    | ']' :: rest => some ([], rest)
    | t => do
      let (value, rest) ← item t
      match skipFiller false rest with
      | ',' :: rest => do
        let (values, rest) ← items? item more rest
        return (value :: values, rest)
      | ']' :: rest => return ([value], rest)
      | _ => none

def assignment? (item : Reader) (t : Text) : Option (List Text × Value × Text) := do
  let (path, rest) ← dottedKey? maxDepth t
  let (value, rest) ← item (skipSpaces (← after? '=' rest))
  return (path, value, rest)

def inlineEntries? (item : Reader) : Nat → Table → Text → Option (Table × Text)
  | 0, _, _ => none
  | more + 1, table, t => do
    let (path, value, rest) ← assignment? item t
    let table ← table.assign path value .closed
    match skipSpaces rest with
    | ',' :: rest => inlineEntries? item more table rest
    | '\x7d' :: rest => return (table, rest)
    | _ => none

/-- Reads a value that has at most `depth` brackets around its innermost part. -/
def value? : Nat → Reader
  | 0, t => scalar? t
  | depth + 1, t =>
    match t with
    | '[' :: rest => (items? (value? depth) (rest.length + 1) rest).map fun (values, rest) =>
      (.array values, rest)
    | '\x7b' :: rest =>
      match skipSpaces rest with
      | '\x7d' :: rest => some (.table .closed [], rest)
      | _ => (inlineEntries? (value? depth) (rest.length + 1) [] rest).map fun (table, rest) =>
        (.table .closed table, rest)
    | t => scalar? t

/-- A document that is read: the table so far, and the path of the last header. -/
structure Progress where
  root : Table
  current : List Text

namespace Progress

def assign (p : Progress) (path : List Text) (value : Value) : Option Progress :=
  (p.root.updateAt false (Table.assign path value) p.current .header).map fun root =>
    { p with root }

def statement? (p : Progress) : Text → Option (Progress × Text)
  | '[' :: '[' :: t => do
    let (path, rest) ← dottedKey? maxDepth t
    let root ← p.root.openElement path
    return (⟨root, path⟩, ← stripStart [']', ']'] rest)
  | '[' :: t => do
    let (path, rest) ← dottedKey? maxDepth t
    let root ← p.root.openTable path
    return (⟨root, path⟩, ← after? ']' rest)
  | t => do
    let (path, value, rest) ← assignment? (value? maxDepth) t
    return (← p.assign path value, rest)

/-- Reads line by line. A line holds a statement or nothing, and perhaps a comment. -/
def lines? : Nat → Progress → Text → Option Table
  | 0, _, _ => none
  | more + 1, p, t =>
    match skipSpaces t with
    | [] => some p.root
    | t =>
      match nextLine? t with
      | some rest => lines? more p rest
      | none => do
        let (p, rest) ← p.statement? t
        lines? more p (← nextLine? rest)

end Progress

/-- Reads a document. A byte order mark in front of it is skipped. -/
def parse (t : Text) : Option Table :=
  let t := (after? '\ufeff' t).getD t
  Progress.lines? (t.length + 1) ⟨[], []⟩ t

end RuntimeLauncher.Toml
