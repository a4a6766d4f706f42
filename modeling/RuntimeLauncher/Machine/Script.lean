import RuntimeLauncher.Text.Basic

/-! Shell scripts: their commands, and reading them from text. Only what small stand-ins for a runtime
need is here. -/
namespace RuntimeLauncher.Machine

inductive Piece where
  | text (t : Text) (quoted : Bool)
  | parameter (name : Text) (quoted : Bool)
  deriving DecidableEq, Repr

abbrev Word := List Piece

inductive Token where
  | word (w : Word)
  /-- A line break, `;`, `&&`, `||`, `>` or `>>`. -/
  | operator (t : Text)
  deriving DecidableEq, Repr

/-- Where the output of a command goes, and whether it is added there. -/
structure Redirection where
  target : Word
  append : Bool
  deriving DecidableEq, Repr

inductive Script where
  | skip
  | simple (words : List Word)
  | both (first second : Script)
  /-- The second part runs if the first succeeds, or else if it fails. -/
  | next (ifSuccess : Bool) (first second : Script)
  | each (name : Text) (words : List Word) (body : Script)
  | choice (condition yes no : Script)
  | redirected (body : Script) (output : Redirection)
  deriving Repr

namespace Token

def isNameStart (c : Char) : Bool := c.isAlpha || c == '_'

def isNameChar (c : Char) : Bool := c.isAlphanum || c == '_'

def isSpecial (c : Char) : Bool := "@*#?$!".toList.contains c || c.isDigit

def parameter? : Text → Option (Text × Text)
  | '\x7b' :: rest =>
    match cutFirst '\x7d' rest with
    | some (name, rest) => if name.all isNameChar then some (name, rest) else none
    | none => none
  | c :: rest =>
    if isSpecial c then some ([c], rest)
    else if isNameStart c then some (c :: rest.takeWhile isNameChar, rest.dropWhile isNameChar)
    else none
  | [] => none

def endsWord (c : Char) : Bool := " \t\n;&|<>()".toList.contains c

/-- Reads the rest of a word, inside double quotes or not. -/
def word? : Nat → Bool → Text → Option (Word × Text)
  | 0, _, _ => none
  | _ + 1, quoted, [] => if quoted then none else some ([], [])
  | more + 1, quoted, c :: rest =>
    let push (piece : Piece) (quoted : Bool) (rest : Text) :=
      (word? more quoted rest).map fun (w, rest) => (piece :: w, rest)
    if c = '"' then push (.text [] true) (!quoted) rest
    else if c = '$' then
      match parameter? rest with
      | some (name, rest) => push (.parameter name quoted) quoted rest
      | none => push (.text [c] quoted) quoted rest
    else if c = '\\' then
      match rest with
      | [] => some ([.text ['\\'] true], [])
      | d :: rest =>
        if d = '\n' then word? more quoted rest
        else if quoted ∧ ¬ "$`\"\\".toList.contains d then push (.text ['\\', d] true) quoted rest
        else push (.text [d] true) quoted rest
    else if quoted then push (.text [c] true) true rest
    else if c = '\'' then
      match cutFirst '\'' rest with
      | some (inside, rest) => push (.text inside true) false rest
      | none => none
    else if endsWord c then some ([], c :: rest)
    else push (.text [c] false) false rest

def read? : Nat → Text → Option (List Token)
  | 0, _ => none
  | _ + 1, [] => some []
  | more + 1, c :: rest =>
    let operator (shown rest : Text) := (read? more rest).map (Token.operator shown :: ·)
    if c = ' ' ∨ c = '\t' then read? more rest
    else if c = '#' then read? more (rest.dropWhile (· != '\n'))
    else if c = '\n' then operator ['\n'] rest
    else if c = ';' then operator [';'] rest
    else
      match c, rest with
      | '&', '&' :: rest => operator ['&', '&'] rest
      | '|', '|' :: rest => operator ['|', '|'] rest
      | '>', '>' :: rest => operator ['>', '>'] rest
      | '>', rest => operator ['>'] rest
      | _, _ =>
        if endsWord c then none
        else
          match word? (rest.length + 2) false (c :: rest) with
          | some (w, rest) => (read? more rest).map (Token.word w :: ·)
          | none => none

def plain? (w : Word) : Option Text :=
  (w.mapM fun
    | Piece.text t false => some t
    | _ => none).map List.flatten

def isWord (name : String) : Token → Bool
  | .word w => plain? w == some name.toList
  | .operator _ => false

def isBreak : Token → Bool
  | .operator t => t == ['\n'] || t == [';']
  | .word _ => false

end Token

namespace Script

def skipBreaks (l : List Token) : List Token := l.dropWhile Token.isBreak

/-- The rest after one of the words that give a script its form. -/
def after? (name : String) (l : List Token) : Option (List Token) :=
  match skipBreaks l with
  | t :: rest => if t.isWord name then some rest else none
  | [] => none

def endsList (t : Token) : Bool :=
  ["\x7d", "done", "then", "else", "fi", "do"].any fun name => t.isWord name

def redirections : Script → List Token → Script × List Token
  | body, .operator t :: .word w :: rest =>
    if t = ['>'] then redirections (.redirected body ⟨w, false⟩) rest
    else if t = ['>', '>'] then redirections (.redirected body ⟨w, true⟩) rest
    else (body, .operator t :: .word w :: rest)
  | body, rest => (body, rest)

def words : List Token → List Word × List Token
  | .word w :: rest => let (ws, rest) := words rest; (w :: ws, rest)
  | rest => ([], rest)

mutual

def list? : Nat → List Token → Option (Script × List Token)
  | 0, _ => none
  | more + 1, l =>
    match skipBreaks l with
    | [] => some (.skip, [])
    | t :: rest =>
      if endsList t then some (.skip, t :: rest)
      else do
        let (first, rest) ← chain? more (t :: rest)
        match rest with
        | [] => return (first, [])
        | t :: rest =>
          if t.isBreak then do
            let (second, rest) ← list? more rest
            return (.both first second, rest)
          else if endsList t then return (first, t :: rest)
          else none

def chain? : Nat → List Token → Option (Script × List Token)
  | 0, _ => none
  | more + 1, l => do
    let (first, rest) ← command? more l
    chainOn? more first rest

def chainOn? : Nat → Script → List Token → Option (Script × List Token)
  | 0, _, _ => none
  | more + 1, first, .operator t :: rest =>
    if t = ['&', '&'] ∨ t = ['|', '|'] then do
      let (second, rest) ← command? more (skipBreaks rest)
      chainOn? more (.next (t = ['&', '&']) first second) rest
    else some (first, .operator t :: rest)
  | _ + 1, first, rest => some (first, rest)

def command? : Nat → List Token → Option (Script × List Token)
  | 0, _ => none
  | _ + 1, [] => none
  | more + 1, t :: rest =>
    if t.isWord "\x7b" then do
      let (body, rest) ← list? more rest
      return redirections body (← after? "\x7d" rest)
    else if t.isWord "if" then do
      let (condition, rest) ← list? more rest
      let (yes, rest) ← list? more (← after? "then" rest)
      match after? "else" rest with
      | some rest => do
        let (no, rest) ← list? more rest
        return redirections (.choice condition yes no) (← after? "fi" rest)
      | none => return redirections (.choice condition yes .skip) (← after? "fi" rest)
    else if t.isWord "for" then do
      let (name, rest) ← match rest with
        | .word w :: rest => (Token.plain? w).map (·, rest)
        | _ => none
      let (ws, rest) := words (← after? "in" rest)
      let (body, rest) ← list? more (← after? "do" rest)
      return redirections (.each name ws body) (← after? "done" rest)
    else
      match words (t :: rest) with
      | ([], _) => none
      | (ws, rest) => some (redirections (.simple ws) rest)

end

def parse (t : Text) : Option Script := do
  let tokens ← Token.read? (t.length + 1) t
  match ← list? (4 * tokens.length + 4) tokens with
  | (script, []) => some script
  | _ => none

end Script

end RuntimeLauncher.Machine
