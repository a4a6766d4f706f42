import RuntimeLauncher.Toml.Lexeme

/-! Writing tables of strings as TOML, each string in the plainest notation that can hold it. -/
namespace RuntimeLauncher.Toml

inductive Delimiter where
  | basic
  | literal
  | multiBasic
  | multiLiteral
  deriving DecidableEq, Repr

/-- Controls that no notation but the basic ones can hold. -/
def isControl (c : Char) : Bool :=
  (c.toNat < 0x20 && c != '\t' && c != '\n') || c.toNat == 0x7F

/-- The length of the longest run of a character, where a run of length `run` is going on. -/
def longestRun (c : Char) (run : Nat) : Text → Nat
  | [] => run
  | d :: rest => if d = c then longestRun c (run + 1) rest else max run (longestRun c 0 rest)

namespace Delimiter

/-- Whether a string can stand between delimiters with every character as it is. -/
def holds (t : Text) : Delimiter → Bool
  | .basic => !t.any isControl && !t.contains '\\' && !t.contains '"' && !t.contains '\n'
  | .literal => !t.any isControl && !t.contains '\'' && !t.contains '\n'
  | .multiBasic => !t.any isControl && !t.contains '\\' && longestRun '"' 0 t ≤ 2
  | .multiLiteral => !t.any isControl && longestRun '\'' 0 t ≤ 2

/-- The first notation that needs no escapes; failing that a basic one, on several lines if the
string has them. -/
def choose (t : Text) : Delimiter :=
  match [basic, literal, multiBasic, multiLiteral].find? (holds t) with
  | some delimiter => delimiter
  | none => if t.contains '\n' then .multiBasic else .basic

end Delimiter

/-- A capital hexadecimal number of at least four digits. -/
def codeDigits (n : Nat) : Text :=
  let digits := (Nat.toDigits 16 n).map Char.toUpper
  List.replicate (4 - digits.length) '0' ++ digits

/-- A character of a basic string, quotes apart. -/
def escapeBasic (multi : Bool) (c : Char) : Text :=
  if c = '\x08' then ['\\', 'b']
  else if c = '\t' then ['\\', 't']
  else if c = '\n' then if multi then ['\n'] else ['\\', 'n']
  else if c = '\x0c' then ['\\', 'f']
  else if c = '\r' then ['\\', 'r']
  else if c = '\\' then ['\\', '\\']
  else if isControl c then '\\' :: 'u' :: codeDigits c.toNat
  else [c]

/-- The inside of a basic string after a run of quotes that are not escaped. One quote is too many on
one line, and three on several lines. -/
def writeBasic (multi : Bool) (run : Nat) : Text → Text
  | [] => []
  | c :: rest =>
    if c = '"' then
      if multi ∧ run < 2 then '"' :: writeBasic multi (run + 1) rest
      else '\\' :: '"' :: writeBasic multi 0 rest
    else escapeBasic multi c ++ writeBasic multi 0 rest

/-- A line break after the opening delimiter, for strings that hold one. -/
def openingBreak (t : Text) : Text := if t.contains '\n' then ['\n'] else []

def writeWith (t : Text) : Delimiter → Text
  | .basic => '"' :: writeBasic false 0 t ++ ['"']
  | .literal => '\'' :: t ++ ['\'']
  | .multiBasic => ['"', '"', '"'] ++ openingBreak t ++ writeBasic true 0 t ++ ['"', '"', '"']
  | .multiLiteral => ['\'', '\'', '\''] ++ openingBreak t ++ t ++ ['\'', '\'', '\'']

def writeString (t : Text) : Text := writeWith t (Delimiter.choose t)

def writeKey (key : Text) : Text :=
  if key ≠ [] ∧ key.all isBare then key
  else if !Delimiter.holds key .basic && Delimiter.holds key .literal then writeWith key .literal
  else writeWith key .basic

/-- One line for each entry, except that strings may have several. -/
def write (entries : List (Text × Text)) : Text :=
  entries.flatMap fun entry => writeKey entry.1 ++ " = ".toList ++ writeString entry.2 ++ ['\n']

end RuntimeLauncher.Toml
