import RuntimeLauncher.Text.Basic

/-! Numbers: whole ones, from digits and in words of 64 bits, and those of double precision, which
are read from decimals and written as the shortest decimal that reads back. -/
namespace RuntimeLauncher

def hexDigit? (c : Char) : Option Nat :=
  if c.isDigit then some (c.toNat - 48)
  else if 'a' ≤ c ∧ c ≤ 'f' then some (c.toNat - 87)
  else if 'A' ≤ c ∧ c ≤ 'F' then some (c.toNat - 55)
  else none

def ofDigits (base : Nat) (digits : Text) : Nat :=
  digits.foldl (fun n c => base * n + (hexDigit? c).getD 0) 0

namespace Signed64

/-- Two to the power 63. The numbers go from its negative up to it, and it is not one of them. -/
def bound : Nat := 0x8000000000000000

def fits (n : Int) : Bool := -bound ≤ n && n < bound

/-- The number that a word of 64 bits stands for. -/
def ofWord (n : Nat) : Int := if n < bound then n else (n : Int) - 2 * bound

end Signed64

/-- A binary number of double precision. A finite one is `significand * 2 ^ exponent`. -/
inductive Binary64 where
  | nan
  | infinite (negative : Bool)
  | finite (negative : Bool) (significand : Nat) (exponent : Int)
  deriving DecidableEq, Repr

namespace Binary64

def minExponent : Int := -1074

def maxExponent : Int := 971

/-- The least significand of 53 bits. -/
def leastFull : Nat := 0x10000000000000

/-- The quotient rounded to the nearest natural number; a half goes to the even neighbour. -/
def divEven (num den : Nat) : Nat :=
  let quotient := num / den
  let twice := 2 * (num % den)
  if twice < den then quotient
  else if den < twice then quotient + 1
  else quotient + quotient % 2

/-- The fraction as a multiple of `2 ^ exponent`, rounded by `round`. -/
def scaled (round : Nat → Nat → Nat) (num den : Nat) (exponent : Int) : Nat :=
  round (num * Nat.pow 2 (-exponent).toNat) (den * Nat.pow 2 exponent.toNat)

/-- The exponent of the last bit of the significand for a positive fraction. -/
def lastBit (num den : Nat) : Int :=
  let guess := max ((num.log2 : Int) - den.log2 - 52) minExponent
  if scaled (· / ·) num den guess < leastFull then max (guess - 1) minExponent else guess

/-- The nearest number to a fraction; ties go to the even significand. -/
def ofFraction (negative : Bool) (num den : Nat) : Binary64 :=
  if num = 0 then .finite negative 0 minExponent
  else
    let exponent := lastBit num den
    let significand := scaled divEven num den exponent
    if significand < 2 * leastFull then
      if exponent ≤ maxExponent then .finite negative significand exponent
      else .infinite negative
    else if exponent < maxExponent then .finite negative leastFull (exponent + 1)
    else .infinite negative

/-- The nearest number to `digits * 10 ^ exponent`. Magnitudes outside `10 ^ -400` to `10 ^ 400`
are settled by their size. -/
def ofDecimal (negative : Bool) (digits : Nat) (exponent : Int) : Binary64 :=
  let magnitude := ((Nat.toDigits 10 digits).length : Int) + exponent
  if digits = 0 || magnitude < -400 then .finite negative 0 minExponent
  else if 400 < magnitude then .infinite negative
  else ofFraction negative (digits * Nat.pow 10 exponent.toNat) (Nat.pow 10 (-exponent).toNat)

/-- The points of the grid `10 ^ power` next to a number, tried against the interval of the values
that round to it. Of two hits the nearer counts, and halfway the one further from zero. Values are
in quarters of the last bit. -/
def gridPoint (significand : Nat) (exponent power : Int) : Option Nat :=
  let value := 4 * significand
  let low := if significand = leastFull && minExponent < exponent then value - 1 else value - 2
  let high := value + 2
  let unit := Nat.pow 10 (-power).toNat * Nat.pow 2 (exponent - 2).toNat
  let step := Nat.pow 10 power.toNat * Nat.pow 2 (2 - exponent).toNat
  let inside (point : Nat) : Bool :=
    if significand % 2 = 0 then low * unit ≤ point * step && point * step ≤ high * unit
    else low * unit < point * step && point * step < high * unit
  let below := value * unit / step
  match 0 < below && inside below, inside (below + 1) with
  | true, true =>
    if 2 * (value * unit % step) < step then some below else some (below + 1)
  | true, false => some below
  | false, true => some (below + 1)
  | false, false => none

/-- Digits and power of ten on the coarsest of the grids `power, power - 1, …` that has a hit. -/
def coarsest (significand : Nat) (exponent : Int) : Nat → Int → Nat × Int
  | 0, power => (0, power)
  | fuel + 1, power =>
    match gridPoint significand exponent power with
    | some digits => (digits, power)
    | none => coarsest significand exponent fuel (power - 1)

/-- The fewest decimal digits that read back as a positive number, and their power of ten. -/
def shortest (significand : Nat) (exponent : Int) : Nat × Int :=
  let top := ((significand.log2 : Int) + 1 + exponent) * 30103 / 100000 + 1
  coarsest significand exponent 24 top

/-- Positional notation for `digits * 10 ^ power`. -/
def positional (digits : Nat) (power : Int) : Text :=
  let shown := Nat.toDigits 10 digits
  if 0 ≤ power then shown ++ List.replicate power.toNat '0'
  else
    let places := (-power).toNat
    if places < shown.length then
      shown.take (shown.length - places) ++ '.' :: shown.drop (shown.length - places)
    else '0' :: '.' :: List.replicate (places - shown.length) '0' ++ shown

/-- A number in positional notation: no exponent, and no point after a whole number. -/
def toText : Binary64 → Text
  | .nan => "NaN".toList
  | .infinite negative => (if negative then ['-'] else []) ++ "inf".toList
  | .finite negative significand exponent =>
    let sign := if negative then ['-'] else []
    if significand = 0 then sign ++ ['0']
    else
      let (digits, power) := shortest significand exponent
      sign ++ positional digits power

end Binary64

end RuntimeLauncher
