import RuntimeLauncher.Number
import RuntimeLauncher.Text.Basic

/-! TOML values, and tables that grow while a document is read. -/
namespace RuntimeLauncher.Toml

/-- How a table came about, which decides what may still be added to it. -/
inductive TableForm where
  /-- Written in braces. Nothing is added. -/
  | closed
  /-- Named by a header. -/
  | header
  /-- On the way to a table with a header. -/
  | implied
  /-- On the way of a dotted key. -/
  | dotted
  deriving DecidableEq, Repr

inductive Value where
  | string (text : Text)
  | integer (n : Int)
  | float (x : Binary64)
  | boolean (b : Bool)
  /-- A date, a time or both, in its standard spelling. -/
  | moment (text : Text)
  | array (items : List Value)
  | table (form : TableForm) (entries : List (Text × Value))
  /-- An array whose elements have headers of their own. -/
  | tables (elements : List (List (Text × Value)))

abbrev Table := List (Text × Value)

namespace Table

def replace (table : Table) (key : Text) (value : Value) : Table :=
  table.map fun entry => if entry.1 = key then (key, value) else entry

/-- Changes the table at the end of a path. Tables that the path needs are made. An array of tables
stands for its last element. A dotted path does not pass through a table with a header. -/
def updateAt (dotted : Bool) (change : TableForm → Table → Option Table) :
    List Text → TableForm → Table → Option Table
  | [], form, table => change form table
  | key :: path, _, table =>
    match table.lookup key with
    | none =>
      let form := if dotted then TableForm.dotted else .implied
      (updateAt dotted change path form []).map fun inner => table ++ [(key, .table form inner)]
    | some (.table form inner) =>
      if form = .closed ∨ (dotted ∧ form = .header) then none
      else (updateAt dotted change path form inner).map fun inner =>
        table.replace key (.table form inner)
    | some (.tables elements) =>
      match elements.getLast? with
      | none => none
      | some inner => (updateAt dotted change path .header inner).map fun inner =>
        table.replace key (.tables (elements.dropLast ++ [inner]))
    | some _ => none

def add (table : Table) (key : Text) (value : Value) : Option Table :=
  match table.lookup key with
  | none => some (table ++ [(key, value)])
  | some _ => none

/-- Sets the value of a dotted key. A key with dots only reaches tables made by such keys, and a plain
key only those that are not. -/
def assign (path : List Text) (value : Value) (form : TableForm) (table : Table) : Option Table :=
  match path.getLast? with
  | none => none
  | some key =>
    table.updateAt true (fun form table =>
      if (form = .dotted) = (path.dropLast = []) then none else table.add key value)
      path.dropLast form

/-- Opens the table of a header. One that was only implied so far moves behind the other keys. -/
def openTable (path : List Text) (root : Table) : Option Table :=
  match path.getLast? with
  | none => none
  | some key =>
    root.updateAt false (fun _ table =>
      match table.lookup key with
      | none => some (table ++ [(key, .table .header [])])
      | some (.table .implied inner) =>
        some (table.filter (·.1 ≠ key) ++ [(key, .table .header inner)])
      | some _ => none) path.dropLast .header

def openElement (path : List Text) (root : Table) : Option Table :=
  match path.getLast? with
  | none => none
  | some key =>
    root.updateAt false (fun _ table =>
      match table.lookup key with
      | none => some (table ++ [(key, .tables [[]])])
      | some (.tables elements) => some (table.replace key (.tables (elements ++ [[]])))
      | some _ => none) path.dropLast .header

/-- The entries, if every value is a string. -/
def strings? (table : Table) : Option (List (Text × Text)) :=
  table.mapM fun entry =>
    match entry.2 with
    | .string text => some (entry.1, text)
    | _ => none

end Table

end RuntimeLauncher.Toml
