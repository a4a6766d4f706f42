import RuntimeLauncher.Log.Pattern
import RuntimeLauncher.Log.Record
import RuntimeLauncher.Text.Characters

/-! Log filters: directives `target[span{field=value}]=level` decide which records are shown. -/
namespace RuntimeLauncher

/-- Shows records up to a rank, if their target begins with a text and they have a field. -/
structure Directive where
  target : Text
  field : Option Text
  /-- The directive waits for a span or for the value of a field, and decides about no record. -/
  waits : Bool
  rank : Nat
  deriving DecidableEq, Repr

namespace Directive

def allLevels : Nat := Level.trace.rank

def forTarget (target : Text) (rank : Nat) : Directive := ⟨target, none, false, rank⟩

/-- Level names in any case, `off`, and numbers from 0 to 5. -/
def rank? (word : Text) : Option Nat :=
  let small := String.ofList (word.map Char.toLower)
  let digits := (stripStart ['+'] word).getD word
  if small = "off" then some 0
  else if small = "error" then some 1
  else if small = "warn" then some 2
  else if small = "info" then some 3
  else if small = "debug" then some 4
  else if small = "trace" then some 5
  else if digits.all Char.isDigit then (String.ofList digits).toNat?.filter (· ≤ allLevels)
  else none

def startsTarget (c : Char) : Bool := isAlphanumeric c || c == '-' || c == ':' || c == '_'

/-- The name of a field, and whether a value is asked for. A second `=` ends the value. -/
def field? (t : Text) : Option (Text × Bool) :=
  if t = [] then none
  else match cutFirst '=' t with
    | none => some (t, false)
    | some (name, value) =>
      if Pattern.isPattern (value.takeWhile (· != '=')) then some (name, true) else none

/-- A directive as it is written. Its marks are looked for in `shown`, which has no blanks around
it, and its parts are cut out of `text` at the same places. A blank in front shifts every part. -/
structure Spelling where
  text : Text
  shown : Text

namespace Spelling

/-- The place of the next mark at or after a place, or the end. -/
def next (s : Spelling) (start : Nat) (isMark : Char → Bool) : Nat :=
  start + ((s.shown.drop start).takeWhile (!isMark ·)).length

def part (s : Spelling) (start stop : Nat) : Text := (s.text.take stop).drop start

/-- The level from a place to the end: nothing, or `=` and a level that may be left out. -/
def level? (s : Spelling) (start : Nat) : Option Nat :=
  match s.shown.drop start with
  | [] => some allLevels
  | '=' :: _ =>
    match s.text.drop (start + 1) with
    | [] => some allLevels
    | word => rank? word
  | _ => none

/-- A span whose name starts at a place, perhaps with a field in braces, and the level after it. -/
def span? (s : Spelling) (target : Text) (start : Nat) : Option Directive :=
  let stop := s.next start fun c => c == ']' || c == '\x7b'
  match s.shown.drop stop with
  | ']' :: _ => (s.level? (stop + 1)).map fun rank => ⟨target, none, true, rank⟩
  | '\x7b' :: _ =>
    let close := s.next (stop + 1) (· == '\x7d')
    match s.shown.drop close with
    | '\x7d' :: ']' :: _ => do
      let (name, valued) ← field? (s.part (stop + 1) close)
      let rank ← s.level? (close + 2)
      return ⟨target, some name, s.part start stop ≠ [] || valued, rank⟩
    | _ => none
  | _ => none

/-- Reads a directive. A bare level is for every target and a bare target for every level. -/
def directive? (s : Spelling) : Option Directive :=
  match s.shown with
  | [] => none
  | '[' :: _ => s.span? [] 1
  | c :: _ =>
    let stop := s.next 0 fun c => c == '=' || c == '['
    let target := s.part 0 stop
    if !startsTarget c then none
    else match s.shown.drop stop with
      | [] =>
        match rank? s.text with
        | some rank => some (forTarget [] rank)
        | none => some (forTarget s.text allLevels)
      | '[' :: _ => s.span? target (stop + 1)
      | _ => (s.level? stop).map (forTarget target)

end Spelling

def parse (text : Text) : Option Directive := Spelling.directive? ⟨text, Text.trim text⟩

def covers (d : Directive) (record : Record) : Bool :=
  !d.waits && d.target.isPrefixOf record.target && d.field.all (record.fieldNames.contains ·)

/-- Whether a directive goes before another: first the longer target, then the one with a field,
then the later name of a field. -/
def precedes (a b : Directive) : Bool :=
  b.target.length < a.target.length || (b.target.length == a.target.length &&
    match a.field, b.field with
    | some x, some y => decide (y < x)
    | some _, none => true
    | none, _ => false)

end Directive

abbrev Filter := List Directive

namespace Filter

def fallback : Filter := [.forTarget [] Level.warn.rank]

def parse (text : Text) : Filter :=
  (((text.splitOn ',').filter (· ≠ [])).mapM Directive.parse).getD fallback

/-- The directive that decides about a record: of those about it none goes before this one, and of
two alike the later counts. -/
def deciding (filter : Filter) (record : Record) : Option Directive :=
  (filter.filter (·.covers record)).foldl (fun best d =>
    match best with
    | none => some d
    | some b => if b.precedes d then best else some d) none

/-- A record that no directive is about is not shown. -/
def shows (filter : Filter) (record : Record) : Bool :=
  (filter.deciding record).any fun d => record.level.rank ≤ d.rank

end Filter

end RuntimeLauncher
