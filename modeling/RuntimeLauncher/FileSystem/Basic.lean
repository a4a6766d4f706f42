import RuntimeLauncher.FileSystem.Failure
import RuntimeLauncher.Path.Basic
import RuntimeLauncher.Text.Utf8

/-! A tree of files as a process sees it: what a path leads to, and what can be read there. -/
namespace RuntimeLauncher

/-- What the owner of a file may do with it. -/
structure Access where
  readable : Bool := true
  writable : Bool := true
  executable : Bool := false
  deriving DecidableEq, Repr

/-- What the permission bits of a file let its owner do. -/
def Access.ofMode (mode : Nat) : Access :=
  ⟨mode.testBit 8, mode.testBit 7, mode.testBit 6⟩

inductive Node where
  | file (content : Bytes) (access : Access)
  | directory
  | link (target : Path)
  deriving DecidableEq, Repr

/-- The names on the way from the root, with no `.`, `..` or link among them. -/
abbrev Location := List Text

/-- A tree of files, and the absolute path that relative paths start from. -/
structure FileSystem where
  node : Location → Option Node
  workingDirectory : Path

/-- The names a path is followed by. A final slash asks for a directory, as a final `.` does. -/
def Path.names (p : Path) : List Text :=
  (p.splitOn '/').filter (· ≠ []) ++ if p.getLast? = some '/' then [['.']] else []

namespace FileSystem

/-- The number of links a path may lead through. -/
def maxLinks : Nat := 40

/-- Bytes in the longest name, and in the longest path. -/
def maxName : Nat := 255

def maxPath : Nat := 4095

/-- Follows names from the directory at `here`. A link hands its target and the names left over to
`expand`. Nothing need stand where the last name leads. -/
def walk (fs : FileSystem) (expand : Location → List Text → Except Failure Location) :
    Location → List Text → Except Failure Location
  | here, [] => .ok here
  | here, name :: rest =>
    match fs.node here with
    | none => .error .notFound
    | some (.file ..) => .error .notADirectory
    | some (.link _) => .error .notADirectory
    | some .directory =>
      if name = ['.'] then fs.walk expand here rest
      else if name = ['.', '.'] then fs.walk expand here.dropLast rest
      else if maxName < (Utf8.encode name).length then .error .nameTooLong
      else match fs.node (here ++ [name]) with
        | some (.link target) =>
          expand (if Path.isAbsolute target then [] else here) (Path.names target ++ rest)
        | _ => fs.walk expand (here ++ [name]) rest

def follow (fs : FileSystem) : Nat → Location → List Text → Except Failure Location
  | 0 => fs.walk fun _ _ => .error .tooManyLinks
  | links + 1 => fs.walk (fs.follow links)

def locate (fs : FileSystem) (p : Path) : Except Failure Location :=
  if p.contains '\x00' then .error .nulInName
  else if p = [] then .error .notFound
  else if maxPath < (Utf8.encode p).length then .error .nameTooLong
  else fs.follow maxLinks [] (Path.names (Path.join fs.workingDirectory p))

def node? (fs : FileSystem) (p : Path) : Option Node :=
  match fs.locate p with
  | .error _ => none
  | .ok location => fs.node location

def isFile (fs : FileSystem) (p : Path) : Bool :=
  match fs.node? p with
  | some (.file ..) => true
  | _ => false

def isDirectory (fs : FileSystem) (p : Path) : Bool :=
  match fs.node? p with
  | some .directory => true
  | _ => false

def contentAt (fs : FileSystem) (location : Location) : Except Failure Bytes :=
  match fs.node location with
  | none => .error .notFound
  | some .directory => .error .isADirectory
  | some (.link _) => .error .tooManyLinks
  | some (.file content access) => if access.readable then .ok content else .error .permissionDenied

def read (fs : FileSystem) (p : Path) : Except Failure Bytes := do
  fs.contentAt (← fs.locate p)

def readText (fs : FileSystem) (p : Path) : Except Failure Text := do
  match Utf8.decode (← fs.read p) with
  | some text => .ok text
  | none => .error .notText

end FileSystem

end RuntimeLauncher
