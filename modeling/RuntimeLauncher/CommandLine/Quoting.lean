import RuntimeLauncher.Text.Basic

/-! Arguments on a Windows command line: quoting one so that it is read back unchanged, and cutting
a line into them. -/
namespace RuntimeLauncher.CommandLine

/-- Characters that end an unquoted argument or start a quoted section. -/
def isSpecial (c : Char) : Bool :=
  c == ' ' || c == '\t' || c == '\n' || c == '\x0b' || c == '"'

/-- The inside of a quoted section, after some backslashes that are not written yet. They are doubled
before a quote, which takes one more if it is part of the argument. -/
def quoteBody (backslashes : Nat) : Text → Text
  | [] => List.replicate (2 * backslashes) '\\'
  | c :: rest =>
    if c = '\\' then quoteBody (backslashes + 1) rest
    else if c = '"' then
      List.replicate (2 * backslashes + 1) '\\' ++ '"' :: quoteBody 0 rest
    else List.replicate backslashes '\\' ++ c :: quoteBody 0 rest

/-- An argument as it is written on a command line. -/
def quote (arg : Text) : Text :=
  if arg = [] then ['"', '"']
  else if arg.any isSpecial then '"' :: quoteBody 0 arg ++ ['"']
  else arg

/-- What two adjacent quotes inside a quoted section do besides standing for one quote. -/
inductive AdjacentQuotes where
  | stayQuoted
  | endQuoted
  deriving DecidableEq, Repr

/-- Reads on after `begun`, the argument so far if there is one, and some backslashes that may turn
out to stand before a quote. Then each two of them are one backslash, and an odd one makes the quote
part of the argument. -/
def splitFrom (adjacent : AdjacentQuotes) (quoted : Bool) (backslashes : Nat)
    (begun : Option Text) : Text → List Text
  | [] =>
    match begun with
    | none => []
    | some arg => [arg ++ List.replicate backslashes '\\']
  | c :: rest =>
    let arg := begun.getD []
    if c = '\\' then splitFrom adjacent quoted (backslashes + 1) (some arg) rest
    else if c = '"' then
      let arg := arg ++ List.replicate (backslashes / 2) '\\'
      if backslashes % 2 = 1 then splitFrom adjacent quoted 0 (some (arg ++ ['"'])) rest
      else if quoted then
        match rest with
        | '"' :: rest =>
          splitFrom adjacent (adjacent == .stayQuoted) 0 (some (arg ++ ['"'])) rest
        | rest => splitFrom adjacent false 0 (some arg) rest
      else splitFrom adjacent true 0 (some arg) rest
    else
      let arg := arg ++ List.replicate backslashes '\\'
      if !quoted && (c == ' ' || c == '\t') then
        match begun with
        | none => splitFrom adjacent false 0 none rest
        | some _ => arg :: splitFrom adjacent false 0 none rest
      else splitFrom adjacent quoted 0 (some (arg ++ [c])) rest

/-- The arguments of a line, which are separated by unquoted spaces and tabs. -/
def split (adjacent : AdjacentQuotes) (line : Text) : List Text :=
  splitFrom adjacent false 0 none line

end RuntimeLauncher.CommandLine
