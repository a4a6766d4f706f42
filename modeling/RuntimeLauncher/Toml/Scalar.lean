import RuntimeLauncher.Number
import RuntimeLauncher.Toml.Lexeme
import RuntimeLauncher.Toml.Value

/-! TOML values without parts: numbers, truth values, dates and times. -/
namespace RuntimeLauncher.Toml

/-- Digits up to the first character that is none. A single underscore may stand between two. -/
def digitRun (isDigit : Char → Bool) : Text → Text × Text
  | [] => ([], [])
  | c :: rest =>
    if isDigit c then prepend c (digitRun isDigit rest)
    else if c = '_' ∧ headIs isDigit rest then digitRun isDigit rest
    else ([], c :: rest)

def digits? (isDigit : Char → Bool) (t : Text) : Option (Text × Text) :=
  if headIs isDigit t then some (digitRun isDigit t) else none

/-- A sign that may be left out, and whether it is a minus. -/
def signPart : Text → Bool × Text
  | '-' :: rest => (true, rest)
  | '+' :: rest => (false, rest)
  | t => (false, t)

/-- Decimal digits without needless zeros in front. -/
def whole? : Text → Option (Text × Text)
  | '0' :: rest => some (['0'], rest)
  | t => digits? Char.isDigit t

def integerOf? (n : Int) : Option Value :=
  if Signed64.fits n then some (.integer n) else none

def based? (base : Nat) (isDigit : Char → Bool) (t : Text) : Option (Value × Text) := do
  let (digits, rest) ← digits? isDigit t
  return (← integerOf? (ofDigits base digits), rest)

/-- An integer of 64 bits. Only decimal ones have a sign. -/
def integer? : Text → Option (Value × Text)
  | '0' :: 'x' :: rest => based? 16 (fun c => (hexDigit? c).isSome) rest
  | '0' :: 'o' :: rest => based? 8 (fun c => '0' ≤ c && c ≤ '7') rest
  | '0' :: 'b' :: rest => based? 2 (fun c => c == '0' || c == '1') rest
  | t => do
    let (negative, t) := signPart t
    let (digits, rest) ← whole? t
    let size : Int := ofDigits 10 digits
    return (← integerOf? (if negative then -size else size), rest)

def fraction? : Text → Option (Text × Text)
  | '.' :: rest => digits? Char.isDigit rest
  | _ => none

def exponent? : Text → Option (Int × Text)
  | [] => none
  | c :: rest =>
    if c = 'e' ∨ c = 'E' then do
      let (negative, rest) := signPart rest
      let (digits, rest) ← digits? Char.isDigit rest
      let size : Int := ofDigits 10 digits
      return (if negative then -size else size, rest)
    else none

/-- A float has a fraction, an exponent or both. One that is too large has no value unless it is
negative. -/
def float? (t : Text) : Option (Value × Text) :=
  let (negative, t) := signPart t
  match stripStart "inf".toList t, stripStart "nan".toList t with
  | some rest, _ => some (.float (.infinite negative), rest)
  | none, some rest => some (.float .nan, rest)
  | none, none => do
    let (whole, rest) ← whole? t
    let (fraction, rest, plain) ← match fraction? rest with
      | some (digits, rest) => some (digits, rest, false)
      | none => some ([], rest, true)
    let (power, rest) ← match exponent? rest with
      | some found => some found
      | none => if plain then none else some (0, rest)
    let value := Binary64.ofDecimal negative (ofDigits 10 (whole ++ fraction))
      (power - fraction.length)
    if value = .infinite false then none else return (.float value, rest)

/-- A number of exactly `count` decimal digits, as it is written. -/
def fixed? (count : Nat) (t : Text) : Option (Text × Text) :=
  let digits := t.take count
  if digits.length = count ∧ digits.all Char.isDigit then some (digits, t.drop count) else none

def after? (c : Char) (t : Text) : Option Text := stripStart [c] t

def isLeapYear (year : Nat) : Bool := year % 4 == 0 && (year % 100 != 0 || year % 400 == 0)

def daysIn (year month : Nat) : Nat :=
  if month = 2 then if isLeapYear year then 29 else 28
  else if month = 4 ∨ month = 6 ∨ month = 9 ∨ month = 11 then 30
  else 31

def date? (t : Text) : Option (Text × Text) := do
  let (year, rest) ← fixed? 4 t
  let (month, rest) ← fixed? 2 (← after? '-' rest)
  let (day, rest) ← fixed? 2 (← after? '-' rest)
  let m := ofDigits 10 month
  let d := ofDigits 10 day
  if 1 ≤ m ∧ m ≤ 12 ∧ 1 ≤ d ∧ d ≤ daysIn (ofDigits 10 year) m then
    return (year ++ '-' :: month ++ '-' :: day, rest)
  else none

/-- Digits of a fraction that count: nine at most, and no zeros at the end. -/
def shownFraction (digits : Text) : Text :=
  match ((digits.take 9).reverse.dropWhile (· == '0')).reverse with
  | [] => []
  | shown => '.' :: shown

/-- A time of day, `hh:mm:ss` with a fraction that may be left out. A minute may have a leap second. -/
def time? (lastHour : Nat) (t : Text) : Option (Text × Text) := do
  let (hour, rest) ← fixed? 2 t
  let (minute, rest) ← fixed? 2 (← after? ':' rest)
  let (second, rest) ← fixed? 2 (← after? ':' rest)
  if ofDigits 10 hour ≤ lastHour ∧ ofDigits 10 minute ≤ 59 ∧ ofDigits 10 second ≤ 60 then
    let whole := hour ++ ':' :: minute ++ ':' :: second
    match after? '.' rest with
    | none => return (whole, rest)
    | some digits =>
      if headIs Char.isDigit digits then
        return (whole ++ shownFraction (digits.takeWhile Char.isDigit),
          digits.dropWhile Char.isDigit)
      else none
  else none

/-- The distance from universal time. None at all is written with a plus. -/
def offset? : Text → Option (Text × Text)
  | [] => none
  | c :: rest =>
    if c = 'Z' ∨ c = 'z' then some (['Z'], rest)
    else if c = '+' ∨ c = '-' then do
      let (hour, rest) ← fixed? 2 rest
      let (minute, rest) ← fixed? 2 (← after? ':' rest)
      let h := ofDigits 10 hour
      let m := ofDigits 10 minute
      if h ≤ 23 ∧ m ≤ 59 then
        return ((if h = 0 ∧ m = 0 then '+' else c) :: hour ++ ':' :: minute, rest)
      else none
    else none

def isTimeMark (c : Char) : Bool := c == 'T' || c == 't' || c == ' '

/-- A date, a time, or both with a `T` or a space between them, and then perhaps an offset. -/
def moment? (t : Text) : Option (Value × Text) :=
  match date? t with
  | none => (time? 23 t).map fun (time, rest) => (.moment time, rest)
  | some (date, rest) =>
    let timed := match rest with
      | [] => none
      | c :: rest => if isTimeMark c then time? 23 rest else none
    match timed with
    | none => some (.moment date, rest)
    | some (time, rest) =>
      let (offset, rest) := (offset? rest).getD ([], rest)
      some (.moment (date ++ 'T' :: time ++ offset), rest)

def boolean? (t : Text) : Option (Value × Text) :=
  match stripStart "true".toList t, stripStart "false".toList t with
  | some rest, _ => some (.boolean true, rest)
  | none, some rest => some (.boolean false, rest)
  | none, none => none

def scalar? (t : Text) : Option (Value × Text) :=
  match string? t with
  | some (text, rest) => some (.string text, rest)
  | none => boolean? t <|> moment? t <|> float? t <|> integer? t

end RuntimeLauncher.Toml
