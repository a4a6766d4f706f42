import RuntimeLauncher.FileSystem.Basic

/-! Changes to a tree of files: appending, copying, placing, removing, and giving access. -/
namespace RuntimeLauncher.FileSystem

/-- The tree with another node, or none, at one location. -/
def put (fs : FileSystem) (location : Location) (node : Option Node) : FileSystem :=
  { fs with node := fun l => if l = location then node else fs.node l }

@[simp] theorem node_put (fs : FileSystem) (location l : Location) (node : Option Node) :
    (fs.put location node).node l = if l = location then node else fs.node l := rfl

def append (fs : FileSystem) (p : Path) (bytes : Bytes) : Except Failure FileSystem := do
  let location ← fs.locate p
  match fs.node location with
  | none => .error .notFound
  | some .directory => .error .isADirectory
  | some (.link _) => .error .tooManyLinks
  | some (.file content access) =>
    if access.writable then .ok (fs.put location (some (.file (content ++ bytes) access)))
    else .error .permissionDenied

/-- Where a file that is to be written stands or will stand. -/
def locateForWriting (fs : FileSystem) (p : Path) : Except Failure Location :=
  if p.getLast? = some '/' then
    let shown := (p.reverse.dropWhile (· == '/')).reverse
    match if shown = [] then .ok [] else fs.locate shown with
    | .error failure => .error failure
    | .ok _ => .error .isADirectory
  else fs.locate p

/-- Empties the file at a path, or makes it. A file that is made has the given access. -/
def truncate (fs : FileSystem) (p : Path) (access : Access) :
    Except Failure (Location × FileSystem) := do
  let location ← fs.locateForWriting p
  match fs.node location with
  | some .directory => .error .isADirectory
  | some (.link _) => .error .tooManyLinks
  | none => .ok (location, fs.put location (some (.file [] access)))
  | some (.file _ old) =>
    if old.writable then .ok (location, fs.put location (some (.file [] old)))
    else .error .permissionDenied

/-- Opens the source, then empties the target and gives it the access of the source, then copies
what is left to read. -/
def copy (fs : FileSystem) (source target : Path) : Except Failure FileSystem := do
  let origin ← fs.locate source
  match fs.node origin with
  | none => .error .notFound
  | some .directory => .error .notARegularFile
  | some (.link _) => .error .tooManyLinks
  | some (.file _ access) =>
    if access.readable then do
      let (goal, emptied) ← fs.truncate target access
      let left := match emptied.node origin with
        | some (.file content _) => content
        | _ => []
      .ok (emptied.put goal (some (.file left access)))
    else .error .permissionDenied

/-- The location of a path that leads through no link. -/
def writtenLocation (fs : FileSystem) (p : Path) : Location :=
  (Path.steps (Path.join fs.workingDirectory p)).foldl (fun (location : Location) step =>
    if step = ['.', '.'] then location.dropLast else location ++ [step]) []

/-- Makes directories on the way to a location where there is nothing. -/
def makeDirectories (fs : FileSystem) (location : Location) : FileSystem :=
  { fs with node := fun l =>
      if l.isPrefixOf location && (fs.node l).isNone then some .directory else fs.node l }

/-- Puts a node at a path, with the directories above it. -/
def place (fs : FileSystem) (p : Path) (node : Node) : FileSystem :=
  let location := fs.writtenLocation p
  (fs.makeDirectories location.dropLast).put location (some node)

/-- Removes a file, or a directory with all below it. -/
def remove (fs : FileSystem) (p : Path) : Option FileSystem :=
  match fs.locate p with
  | .error _ => none
  | .ok location =>
    if (fs.node location).isNone then none
    else some { fs with node := fun l => if location.isPrefixOf l then none else fs.node l }

/-- Gives a file another access. Directories keep none. -/
def setAccess (fs : FileSystem) (p : Path) (access : Access) : Except Failure FileSystem := do
  let location ← fs.locate p
  match fs.node location with
  | none => .error .notFound
  | some .directory => .ok fs
  | some (.link _) => .error .tooManyLinks
  | some (.file content _) => .ok (fs.put location (some (.file content access)))

def empty (workingDirectory : Path) : FileSystem :=
  ({ node := fun _ => none, workingDirectory } : FileSystem).makeDirectories
    (Path.steps workingDirectory)

end RuntimeLauncher.FileSystem
