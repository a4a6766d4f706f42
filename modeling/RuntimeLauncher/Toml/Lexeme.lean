import RuntimeLauncher.Number
import RuntimeLauncher.Text.Utf8

/-! The smallest parts of TOML: blanks, comments, line ends, strings and keys. A reader gives what it
read and the text after it. -/
namespace RuntimeLauncher.Toml

def prepend (c : Char) (result : Text × Text) : Text × Text := (c :: result.1, result.2)

def isSpace (c : Char) : Bool := c == ' ' || c == '\t'

def skipSpaces (t : Text) : Text := t.dropWhile isSpace

def lineBreak? : Text → Option Text
  | '\n' :: rest => some rest
  | '\r' :: '\n' :: rest => some rest
  | _ => none

/-- Every character but the ASCII controls; a tab is no control here. -/
def isPlain (c : Char) : Bool := c == '\t' || (0x20 ≤ c.toNat && c.toNat != 0x7F)

def skipComment : Text → Text
  | '#' :: rest => rest.dropWhile isPlain
  | t => t

/-- The next line, if nothing but spaces and a comment is left on this one. -/
def nextLine? (t : Text) : Option Text :=
  match skipComment (skipSpaces t) with
  | [] => some []
  | rest => lineBreak? rest

def skipFiller (comment : Bool) : Text → Text
  | [] => []
  | c :: rest =>
    if c = '\n' then skipFiller false rest
    else if c = '\r' then
      if rest.head? = some '\n' then skipFiller comment rest else c :: rest
    else if comment then if isPlain c then skipFiller true rest else c :: rest
    else if c = '#' then skipFiller true rest
    else if isSpace c then skipFiller false rest
    else c :: rest

/-- What the last delimiter of a string of several lines leaves: up to two quotes right before it
belong to the string. -/
def afterDelimiter (quote : Char) (t : Text) : Text × Text :=
  let more := (t.takeWhile (· == quote)).take 2
  (more, t.drop more.length)

def shortEscape? (c : Char) : Option Char :=
  if c = 'b' then some '\x08'
  else if c = 't' then some '\t'
  else if c = 'n' then some '\n'
  else if c = 'f' then some '\x0c'
  else if c = 'r' then some '\r'
  else if c = '"' then some '"'
  else if c = '\\' then some '\\'
  else none

mutual

/-- Reads a basic string up to its end. `multi` allows several lines. In a gap, which a backslash at
the end of a line opens, spaces and line breaks are dropped. -/
def basicBody (multi gap : Bool) : Text → Option (Text × Text)
  | [] => none
  | c :: rest =>
    if c = '\r' then
      if multi && rest.head? == some '\n' then basicBody multi gap rest else none
    else if gap && (isSpace c || c == '\n') then basicBody multi true rest
    else if c = '"' then
      if multi then
        match rest with
        | '"' :: '"' :: after => some (afterDelimiter '"' after)
        | _ => (basicBody multi false rest).map (prepend c)
      else some ([], rest)
    else if c = '\\' then basicEscape multi rest
    else if isPlain c || (multi && c == '\n') then (basicBody multi false rest).map (prepend c)
    else none

def basicEscape (multi : Bool) : Text → Option (Text × Text)
  | [] => none
  | c :: rest =>
    match shortEscape? c with
    | some meant => (basicBody multi false rest).map (prepend meant)
    | none =>
      if c = 'u' then basicCode multi 3 0 rest
      else if c = 'U' then basicCode multi 7 0 rest
      else if multi && (lineBreak? (skipSpaces (c :: rest))).isSome then basicBody multi true rest
      else none

/-- Reads `more + 1` further digits of a character code. -/
def basicCode (multi : Bool) (more code : Nat) : Text → Option (Text × Text)
  | [] => none
  | c :: rest =>
    match hexDigit? c with
    | none => none
    | some digit =>
      match more with
      | 0 => (Utf8.charOf 0 (16 * code + digit)).bind fun meant =>
        (basicBody multi false rest).map (prepend meant)
      | more + 1 => basicCode multi more (16 * code + digit) rest

end

/-- Reads a literal string, which has no escapes, up to its end. -/
def literalBody (multi : Bool) : Text → Option (Text × Text)
  | [] => none
  | c :: rest =>
    if c = '\r' then
      if multi && rest.head? == some '\n' then literalBody multi rest else none
    else if c = '\'' then
      if multi then
        match rest with
        | '\'' :: '\'' :: after => some (afterDelimiter '\'' after)
        | _ => (literalBody multi rest).map (prepend c)
      else some ([], rest)
    else if isPlain c || (multi && c == '\n') then (literalBody multi rest).map (prepend c)
    else none

/-- A line break right after an opening delimiter is no part of the string. -/
def skipFirstBreak (t : Text) : Text := (lineBreak? t).getD t

def string? : Text → Option (Text × Text)
  | '"' :: '"' :: '"' :: rest => basicBody true false (skipFirstBreak rest)
  | '"' :: rest => basicBody false false rest
  | '\'' :: '\'' :: '\'' :: rest => literalBody true (skipFirstBreak rest)
  | '\'' :: rest => literalBody false rest
  | _ => none

def isBare (c : Char) : Bool := c.isAlphanum || c == '_' || c == '-'

def key? : Text → Option (Text × Text)
  | '"' :: rest => basicBody false false rest
  | '\'' :: rest => literalBody false rest
  | t =>
    match t.takeWhile isBare with
    | [] => none
    | name => some (name, t.dropWhile isBare)

/-- The greatest number of keys in a dotted key, and of brackets around a value. -/
def maxDepth : Nat := 79

/-- Reads at most `most` keys with dots between them, and the spaces around them. -/
def dottedKey? : Nat → Text → Option (List Text × Text)
  | 0, _ => none
  | most + 1, t => do
    let (key, rest) ← key? (skipSpaces t)
    match skipSpaces rest with
    | '.' :: rest => do
      let (keys, rest) ← dottedKey? most rest
      return (key :: keys, rest)
    | rest => return ([key], rest)

end RuntimeLauncher.Toml
