import RuntimeLauncher.Path.Basic

/-! File names in paths that may use `/` or `\` as the separator. -/
namespace RuntimeLauncher.Path

def isSeparator (c : Char) : Bool := c == '/' || c == '\\'

/-- A drive letter, a colon and a separator, or two backslashes. -/
def isWindowsAbsolute : Path → Bool
  | '\\' :: '\\' :: _ => true
  | drive :: ':' :: separator :: _ => drive.isAlpha && isSeparator separator
  | _ => false

/-- The text up to the last separator, which is included. -/
def folder (p : Path) : Text := (p.reverse.dropWhile (!isSeparator ·)).reverse

def lastName (p : Path) : Text := (p.reverse.takeWhile (!isSeparator ·)).reverse

def isBareName (p : Path) : Bool := !p.any isSeparator

/-- A name without its last `.` and what follows, unless that `.` is in front. -/
def stem (name : Text) : Text :=
  match cutLast '.' name with
  | none => name
  | some ([], _) => name
  | some (front, _) => front

def stripExtension (p : Path) : Path := folder p ++ stem (lastName p)

def withExtension (p : Path) (ext : Text) : Path := stripExtension p ++ '.' :: ext

/-- A name whose first `~` is followed by a digit, as in `PROGRA~1`. -/
def isShortAlias (name : Text) : Bool :=
  match cutFirst '~' name with
  | some (_, next :: _) => next.isDigit
  | _ => false

def hasShortAlias (p : Path) : Bool := (p.splitOnP isSeparator).any isShortAlias

theorem folder_append_lastName (p : Path) : folder p ++ lastName p = p := by
  rw [folder, lastName, ← List.reverse_append, List.takeWhile_append_dropWhile, List.reverse_reverse]

end RuntimeLauncher.Path
