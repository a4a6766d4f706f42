import RuntimeLauncher.Toml.Document

/-! Dates as tables: a table whose first key is a certain mark stands for the date that the string
under this key spells. -/
namespace RuntimeLauncher.Toml

/-- The key that marks a table as a date. -/
def momentMark : Text := "$__toml_private_datetime".toList

def twoDigits (n : Nat) : Text := if n < 10 then '0' :: Nat.toDigits 10 n else Nat.toDigits 10 n

/-- The distance from universal time, at most a day. More than 59 minutes are carried over. -/
def spelledOffset? (t : Text) : Option Text :=
  match t with
  | [] => some []
  | ['Z'] => some ['Z']
  | ['z'] => some ['Z']
  | c :: rest => do
    let (hour, rest) ← fixed? 2 rest
    let (minute, rest) ← fixed? 2 (← after? ':' rest)
    let distance := 60 * ofDigits 10 hour + ofDigits 10 minute
    if (c = '+' ∨ c = '-') ∧ distance ≤ 1440 ∧ rest = [] then
      return (if distance = 0 then '+' else c) ::
        twoDigits (distance / 60) ++ ':' :: twoDigits (distance % 60)
    else none

/-- The date, time or both that a string spells, in standard spelling. Hour 24 is allowed here. -/
def spelled? (t : Text) : Option Text :=
  if (t.drop 2).head? = some ':' then
    match time? 24 t with
    | some (time, []) => some time
    | _ => none
  else do
    let (date, rest) ← date? t
    match rest with
    | [] => some date
    | c :: rest =>
      if isTimeMark c then do
        let (time, rest) ← time? 24 rest
        return date ++ 'T' :: time ++ (← spelledOffset? rest)
      else none

def Table.isMarked : Table → Bool
  | [] => false
  | (key, _) :: _ => key == momentMark

def Table.moment? : Table → Option Text
  | (_, .string t) :: _ => spelled? t
  | _ => none

mutual

/-- Whether every marked table in a value stands for a date. -/
def Value.isSound : Value → Bool
  | .array items => areSound items
  | .table _ entries => Table.isSound entries
  | .tables elements => elementsAreSound elements
  | _ => true

def areSound : List Value → Bool
  | [] => true
  | value :: rest => value.isSound && areSound rest

/-- What follows the first key of a marked table is not looked at. -/
def Table.isSound : List (Text × Value) → Bool
  | [] => true
  | (key, value) :: rest =>
    if key = momentMark then (Table.moment? [(key, value)]).isSome
    else value.isSound && entriesAreSound rest

def entriesAreSound : List (Text × Value) → Bool
  | [] => true
  | (_, value) :: rest => value.isSound && entriesAreSound rest

def elementsAreSound : List (List (Text × Value)) → Bool
  | [] => true
  | table :: rest => Table.isSound table && elementsAreSound rest

end

/-- Reads a document whose marked tables stand for dates. It is not one date as a whole. -/
def parseMarked (t : Text) : Option Table :=
  (parse t).filter fun table => !table.isMarked && Table.isSound table

end RuntimeLauncher.Toml
