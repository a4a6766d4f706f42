import RuntimeLauncher.Text.Basic
import RuntimeLauncher.Text.Quoted

/-! JSON values without numbers, written with an indentation of two spaces. -/
namespace RuntimeLauncher

inductive Json where
  | string (text : Text)
  | array (items : List Json)
  | object (fields : List (Text × Json))

namespace Json

def escape (c : Char) : Text :=
  if c = '"' then ['\\', '"']
  else if c = '\\' then ['\\', '\\']
  else if c = '\x08' then ['\\', 'b']
  else if c = '\x0c' then ['\\', 'f']
  else if c = '\n' then ['\\', 'n']
  else if c = '\r' then ['\\', 'r']
  else if c = '\t' then ['\\', 't']
  else if c.toNat < 0x20 then
    "\\u00".toList ++ (if c.toNat < 0x10 then ['0'] else []) ++ hexDigits c.toNat
  else [c]

def quote (t : Text) : Text := '"' :: t.flatMap escape ++ ['"']

def block (opening closing : Char) (indent : Nat) (items : List Text) : Text :=
  if items = [] then [opening, closing]
  else
    opening :: '\n' ::
      ",\n".toList.intercalate (items.map fun item => List.replicate (indent + 2) ' ' ++ item) ++
      '\n' :: List.replicate indent ' ' ++ [closing]

mutual

/-- A value whose first line is indented already, and its other lines by `indent`. -/
def pretty (indent : Nat) : Json → Text
  | .string text => quote text
  | .array items => block '[' ']' indent (prettyItems indent items)
  | .object fields => block '\x7b' '\x7d' indent (prettyFields indent fields)

def prettyItems (indent : Nat) : List Json → List Text
  | [] => []
  | item :: rest => pretty (indent + 2) item :: prettyItems indent rest

def prettyFields (indent : Nat) : List (Text × Json) → List Text
  | [] => []
  | (name, value) :: rest =>
    (quote name ++ ':' :: ' ' :: pretty (indent + 2) value) :: prettyFields indent rest

end

def render (json : Json) : Text := pretty 0 json

end Json

end RuntimeLauncher
