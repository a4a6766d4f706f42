import RuntimeLauncher.Environment
import RuntimeLauncher.Number
import RuntimeLauncher.Text.Characters
import RuntimeLauncher.Toml.Marked

/-! Settings from several sources, one layered on the other. -/
namespace RuntimeLauncher

/-- The value of a setting, as far as its type matters. -/
inductive Setting where
  | text (t : Text)
  | flag (b : Bool)
  /-- A number is known by its text. -/
  | number (shown : Text)
  | compound
  /-- A table without entries, which leaves a setting as it is. -/
  | empty
  deriving DecidableEq, Repr

namespace Setting

/-- A list or a table has no text, and every other value has one. -/
def text? : Setting → Option Text
  | .text t => some t
  | .flag b => some (if b then "true".toList else "false".toList)
  | .number shown => some shown
  | .compound => none
  | .empty => none

def ofToml : Toml.Value → Setting
  | .string t => .text t
  | .integer n => .number (toString n).toList
  | .float x => .number x.toText
  | .boolean b => .flag b
  | .moment t => .text t
  | .array _ => .compound
  | .table _ [] => .empty
  | .table _ entries =>
    if Toml.Table.isMarked entries then (Toml.Table.moment? entries).elim .compound .text
    else .compound
  | .tables _ => .compound

end Setting

namespace KeyPath

/-- Characters of a name on a key path. -/
def isNameChar (c : Char) : Bool := c.isAlphanum || c == ' ' || c == '_' || c == '-'

def afterName? (t : Text) : Option Text :=
  if headIs isNameChar t then some (t.dropWhile isNameChar) else none

def afterIndex? (t : Text) : Option Text := do
  let (negative, t) ← match Toml.skipSpaces t with
    | '-' :: t => some (true, t)
    | t => some (false, t)
  let digits := t.takeWhile Char.isDigit
  let size : Int := ofDigits 10 digits
  if digits = [] ∨ !Signed64.fits (if negative then -size else size) then none
  else match Toml.skipSpaces (t.dropWhile Char.isDigit) with
    | ']' :: t => some t
    | _ => none

/-- Whether the text is a sequence of steps: `.name` or `[index]`. -/
def areSteps : Nat → Text → Bool
  | _, [] => true
  | 0, _ :: _ => false
  | more + 1, c :: rest =>
    match if c = '.' then afterName? rest else if c = '[' then afterIndex? rest else none with
    | some rest => areSteps more rest
    | none => false

/-- The name that a path starts with, and whether the path goes on below it. A key that is no path is
a name as a whole. -/
def root (key : Text) : Text × Bool :=
  match afterName? key with
  | none => (key, false)
  | some rest =>
    if areSteps rest.length rest then (key.takeWhile isNameChar, rest ≠ []) else (key, false)

end KeyPath

abbrev Layers := List (Text × Setting)

namespace Layers

/-- What variables for settings start with, in small letters. -/
def variableStart : Text := "dotnet_launcher_".toList

/-- A setting under its name. A key that goes on below a name makes that name compound. -/
def entry (key : Text) (value : Setting) : Text × Setting :=
  let (name, below) := KeyPath.root (Text.toLowerName key)
  (name, if below then .compound else value)

/-- The setting that a variable makes, if it makes one. -/
def ofVariable? (assigned : Text × Text) : Option (Text × Setting) :=
  (stripStart variableStart (Text.toLowerName assigned.1)).map fun key =>
    entry key (.text assigned.2)

def ofVariables (env : List (Text × Text)) : Layers := env.filterMap ofVariable?

def ofTable (table : Toml.Table) : Layers :=
  table.map fun pair => entry pair.1 (.ofToml pair.2)

/-- The setting of a name that was made last. An empty table counts where there is nothing else. -/
def get? (layers : Layers) (name : Text) : Option Setting :=
  ((layers.filter (·.2 ≠ .empty)).reverse.lookup name).or (layers.lookup name)

end Layers

end RuntimeLauncher
