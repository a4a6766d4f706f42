import RuntimeLauncher.FileSystem.Basic
import RuntimeLauncher.Log.Event
import RuntimeLauncher.Path.Name

/-! Runfiles: a directory of files that are known by logical paths, or a manifest in its place, with
one `<logical> <physical>` line for each file. -/
namespace RuntimeLauncher

/-- Logical names and the paths they stand for, in the order of the lines. -/
abbrev Manifest := List (Text × Path)

namespace Manifest

/-- The lines of a text. A carriage return goes with the line feed it stands before. -/
def lines (t : Text) : List Text :=
  let pieces := t.splitOn '\n'
  pieces.dropLast.map (fun line => (stripEnd ['\r'] line).getD line) ++ pieces.getLast?.toList

/-- A line is cut at its first space; without one, its path is empty. -/
def parseLine (line : Text) : Text × Path :=
  (cutFirst ' ' line).getD (line, [])

def parse (t : Text) : Manifest := ((lines t).filter (· ≠ [])).map parseLine

/-- The path on the last line for a logical name, unless that path is empty. -/
def find? (manifest : Manifest) (logical : Text) : Option Path :=
  (manifest.reverse.lookup logical).filter (· ≠ [])

end Manifest

inductive Strategy where
  | directory
  | manifest (file : Path) (entries : Manifest)
  deriving DecidableEq, Repr

structure Runfiles where
  directory : Path
  strategy : Strategy
  deriving DecidableEq, Repr

namespace Runfiles

def ofDirectory (directory : Path) : Runfiles := ⟨directory, .directory⟩

/-- Lookups through a manifest. One that cannot be read resolves nothing. -/
def ofManifest (fs : FileSystem) (directory manifest : Path) : Runfiles :=
  match fs.readText manifest with
  | .ok text => ⟨directory, .manifest manifest (Manifest.parse text)⟩
  | .error _ => ⟨directory, .manifest manifest []⟩

def manifestEvents (fs : FileSystem) (manifest : Path) : List Event :=
  match fs.readText manifest with
  | .ok _ => []
  | .error cause => [.manifestUnreadable manifest cause]

def manifestFile (r : Runfiles) : Option Path :=
  match r.strategy with
  | .directory => none
  | .manifest file _ => some file

/-- A runfile of another workspace is also known by a path through `..` or `external`. -/
def logicalPath (path : Text) : Text :=
  match stripStart "../".toList path with
  | some rest => rest
  | none => (stripStart "external/".toList path).getD path

/-- Where a path leads. Absolute paths, also those of Windows, lead to themselves. -/
def location? (r : Runfiles) (path : Text) : Option Path :=
  if Path.isAbsolute path || Path.isWindowsAbsolute path then some path
  else match r.strategy with
    | .directory => some (Path.join r.directory (logicalPath path))
    | .manifest _ entries => entries.find? (logicalPath path)

end Runfiles

end RuntimeLauncher
