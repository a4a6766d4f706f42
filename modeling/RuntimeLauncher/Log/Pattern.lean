import RuntimeLauncher.Number
import RuntimeLauncher.Text.Alphanumeric
import RuntimeLauncher.Text.Utf8

/-! What the value of a field may be compared with: a number or a regular expression. Classes and
boundaries that depend on the script of a text (`\d`, `\p`, `\b` and their like) are not known. -/
namespace RuntimeLauncher.Pattern

/-- The character of a code with exactly `count` digits. -/
def coded? (count : Nat) (t : Text) : Option (Char × Text) :=
  let digits := t.take count
  if digits.length = count ∧ digits.all (fun c => (hexDigit? c).isSome) then
    (Utf8.charOf 0 (ofDigits 16 digits)).map (·, t.drop count)
  else none

def control? (c : Char) : Option Char :=
  if c = 'a' then some '\x07'
  else if c = 'f' then some '\x0c'
  else if c = 'n' then some '\n'
  else if c = 'r' then some '\r'
  else if c = 't' then some '\t'
  else if c = 'v' then some '\x0b'
  else none

/-- Characters that mean themselves after a backslash. -/
def isEscapable (c : Char) : Bool := c.toNat < 0x80 && !c.isAlphanum && c != '<' && c != '>'

def escaped? : Text → Option (Char × Text)
  | [] => none
  | c :: rest =>
    if c = 'x' then coded? 2 rest
    else if c = 'u' then coded? 4 rest
    else if c = 'U' then coded? 8 rest
    else match control? c with
      | some meant => some (meant, rest)
      | none => if isEscapable c then some (c, rest) else none

/-- What follows a backslash: a character, or the start or the end of the text. -/
def afterBackslash? : Text → Option Text
  | 'A' :: rest => some rest
  | 'z' :: rest => some rest
  | t => (escaped? t).map (·.2)

def classItem? : Text → Option (Char × Text)
  | [] => none
  | '\\' :: rest => escaped? rest
  | c :: rest => some (c, rest)

/-- Skips what has no other meaning right after the bracket of a class: a negation, then a closing
bracket or dashes. -/
def skipOpening (t : Text) : Text :=
  match if headIs (· == '^') t then t.tail else t with
  | ']' :: rest => rest
  | t => t.dropWhile (· == '-')

def afterClass? : Nat → Nat → Text → Option Text
  | 0, _, _ => none
  | _ + 1, _, [] => none
  | more + 1, depth, ']' :: rest =>
    match depth with
    | 0 => some rest
    | depth + 1 => afterClass? more depth rest
  | more + 1, depth, '[' :: rest => afterClass? more (depth + 1) (skipOpening rest)
  | more + 1, depth, '&' :: '&' :: rest => afterClass? more depth rest
  | more + 1, depth, '-' :: '-' :: rest => afterClass? more depth rest
  | more + 1, depth, '~' :: '~' :: rest => afterClass? more depth rest
  | more + 1, depth, t => do
    let (first, rest) ← classItem? t
    match rest with
    | '-' :: ']' :: _ => afterClass? more depth rest
    | '-' :: '-' :: _ => afterClass? more depth rest
    | '-' :: t => do
      let (last, rest) ← classItem? t
      if first ≤ last then afterClass? more depth rest else none
    | rest => afterClass? more depth rest

/-- Whether the letters switch modes on, or off after a dash. -/
def areModes (t : Text) : Bool :=
  let letters := t.filter (· ≠ '-')
  t ≠ [] && t.getLast? ≠ some '-' && t.length ≤ letters.length + 1 &&
    letters.all (['m', 's', 'u', 'U', 'R', 'x'].contains ·) && letters.eraseDups = letters

def isGroupName : Text → Bool
  | [] => false
  | c :: rest =>
    let isFirst (c : Char) : Bool := c == '_' || (isAlphanumeric c && !c.isDigit)
    isFirst c && rest.all fun c => isAlphanumeric c || ['_', '.', '[', ']'].contains c

/-- What follows the head of a group after `(?`, and whether the group goes on there. -/
def afterGroupHead? (t : Text) : Option (Text × Bool) :=
  let named (t : Text) : Option (Text × Bool) :=
    match cutFirst '>' t with
    | some (name, rest) => if isGroupName name then some (rest, true) else none
    | none => none
  let modes := t.takeWhile fun c => c != ':' && c != ')'
  match t with
  | 'P' :: '<' :: rest => named rest
  | '<' :: rest => named rest
  | _ =>
    match t.drop modes.length with
    | ':' :: rest => if modes = [] ∨ areModes modes then some (rest, true) else none
    | ')' :: rest => if areModes modes then some (rest, false) else none
    | _ => none

/-- Whether the text goes on as a regular expression. `groups` are open, and `filled` tells whether
there is something in front that can be repeated. -/
def goesOn : Nat → Nat → Bool → Text → Bool
  | _, groups, _, [] => groups == 0
  | 0, _, _, _ :: _ => false
  | more + 1, groups, _, '(' :: '?' :: rest =>
    match afterGroupHead? rest with
    | some (rest, true) => goesOn more (groups + 1) false rest
    | some (rest, false) => goesOn more groups false rest
    | none => false
  | more + 1, groups, _, '(' :: rest => goesOn more (groups + 1) false rest
  | more + 1, groups, _, ')' :: rest => groups != 0 && goesOn more (groups - 1) true rest
  | more + 1, groups, _, '|' :: rest => goesOn more groups false rest
  | more + 1, groups, _, '[' :: rest =>
    match afterClass? (rest.length + 1) 0 (skipOpening rest) with
    | some rest => goesOn more groups true rest
    | none => false
  | more + 1, groups, _, '\\' :: rest =>
    match afterBackslash? rest with
    | some rest => goesOn more groups true rest
    | none => false
  | more + 1, groups, filled, c :: rest =>
    if c = '\x7b' then false
    else if c = '*' ∨ c = '+' ∨ c = '?' then filled && goesOn more groups true rest
    else goesOn more groups true rest

/-- Whether the text is a regular expression. A count in braces is none, because no brace can be
closed inside of a directive. -/
def isRegular (t : Text) : Bool := goesOn t.length 0 false t

/-- Digits with a point and an exponent, any of which may be left out but not all digits. -/
def isDecimal (t : Text) : Bool :=
  let whole := t.takeWhile Char.isDigit
  let (fraction, rest) :=
    match t.dropWhile Char.isDigit with
    | '.' :: t => (t.takeWhile Char.isDigit, t.dropWhile Char.isDigit)
    | t => ([], t)
  let power (t : Text) : Bool := t ≠ [] && t.all Char.isDigit
  (whole ≠ [] || fraction ≠ []) &&
    match rest with
    | [] => true
    | c :: rest => (c == 'e' || c == 'E') && (power rest ||
      match rest with
      | sign :: rest => (sign == '+' || sign == '-') && power rest
      | [] => false)

/-- A number with a plus in front, which is not a regular expression as well. -/
def isPlusNumber : Text → Bool
  | '+' :: t =>
    isDecimal t || ["inf".toList, "infinity".toList, "nan".toList].contains (t.map Char.toLower)
  | _ => false

def isPattern (t : Text) : Bool := isRegular t || isPlusNumber t

end RuntimeLauncher.Pattern
