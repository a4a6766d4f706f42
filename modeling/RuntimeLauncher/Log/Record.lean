import RuntimeLauncher.Text.Basic

/-! Log records: a level, a target, a message and named fields. -/
namespace RuntimeLauncher

/-- Levels from the least to the most talkative. -/
inductive Level where
  | error
  | warn
  | info
  | debug
  | trace
  deriving DecidableEq, Repr

namespace Level

def rank : Level → Nat
  | .error => 1
  | .warn => 2
  | .info => 3
  | .debug => 4
  | .trace => 5

def name : Level → Text
  | .error => "ERROR".toList
  | .warn => "WARN".toList
  | .info => "INFO".toList
  | .debug => "DEBUG".toList
  | .trace => "TRACE".toList

end Level

inductive FieldValue where
  | text (t : Text)
  | flag (b : Bool)
  | number (n : Int)
  /-- A text whose wording is left open. -/
  | unspecified
  deriving DecidableEq, Repr

structure Record where
  level : Level
  target : Text
  message : Text
  fields : List (Text × FieldValue)
  deriving DecidableEq, Repr

/-- The names of the fields; the message is a field too. -/
def Record.fieldNames (r : Record) : List Text := "message".toList :: r.fields.map (·.1)

end RuntimeLauncher
