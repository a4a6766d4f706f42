import RuntimeLauncher.Text.Basic

/-! Paths as text: components, parents, names and joins, without looking at any file. All paths are
Unicode text. There are none of other bytes, so that a path and its text are the same, and showing a
path loses nothing of it. -/
namespace RuntimeLauncher

/-- A path is its text. `/` is the separator. -/
abbrev Path := Text

namespace Path

inductive Component where
  | root
  /-- A leading `.` of a relative path. -/
  | current
  | parent
  | name (text : Text)
  deriving DecidableEq, Repr

def isAbsolute (p : Path) : Bool := p.head? == some '/'

/-- The component a piece between slashes stands for, if any. -/
def Component.ofPiece (piece : Text) : Option Component :=
  if piece = [] then none
  else if piece = ['.'] then none
  else if piece = ['.', '.'] then some .parent
  else some (.name piece)

/-- Empty pieces count for nothing, nor does a `.` that is not in front. -/
def components (p : Path) : List Component :=
  (if isAbsolute p then [.root]
    else if (p.splitOn '/').head? = some ['.'] then [.current] else []) ++
    (p.splitOn '/').filterMap Component.ofPiece

/-- A piece that is no component unless it is in front. -/
def isIdle (piece : Text) : Bool := piece == [] || piece == ['.']

/-- The front piece and the others up to the last that is a component. -/
def significant : List Text → List Text
  | [] => []
  | front :: rest => front :: (rest.reverse.dropWhile isIdle).reverse

/-- The text of an absolute path starts with an empty piece, also when it is the root. -/
def ofPieces (pieces : List Text) : Path :=
  if pieces = [[]] then ['/'] else ['/'].intercalate pieces

/-- The path without its last component; the root and the empty path have no parent. -/
def parent (p : Path) : Option Path :=
  match significant (p.splitOn '/') with
  | [] => none
  | [front] => if front = [] then none else some []
  | front :: rest => some (ofPieces (significant (front :: rest.dropLast)))

def fileName (p : Path) : Option Text :=
  match (components p).getLast? with
  | some (.name text) => some text
  | _ => none

/-- What follows the last `.` of the file name, unless the name starts with it. -/
def extension (p : Path) : Option Text :=
  match (fileName p).bind (cutLast '.') with
  | none => none
  | some ([], _) => none
  | some (_, ext) => some ext

def appendExtension (p : Path) (ext : Text) : Option Path :=
  (fileName p).map fun _ => ofPieces (significant (p.splitOn '/')) ++ '.' :: ext

/-- An absolute right side replaces the left; an empty one adds a slash. -/
def join (base p : Path) : Path :=
  if isAbsolute p then p
  else if base = [] || base.getLast? == some '/' then base ++ p
  else base ++ '/' :: p

/-- The pieces that matter for an absolute form: names and `..`. -/
def steps (p : Path) : List Text :=
  (p.splitOn '/').filter fun piece => !isIdle piece

/-- The path from the root, with `cwd` before a relative one. Steps of `.` and repeated slashes go,
`..` and a final slash stay, and so do exactly two leading slashes. -/
def absolute (cwd p : Path) : Path :=
  let base : Path :=
    if !isAbsolute p then cwd
    else match p with
      | '/' :: '/' :: '/' :: _ => ['/']
      | '/' :: '/' :: _ => ['/', '/']
      | _ => ['/']
  let whole := (steps p).foldl join base
  if p.getLast? = some '/' then join whole [] else whole

end Path

end RuntimeLauncher
