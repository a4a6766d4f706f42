import RuntimeLauncher.Program

/-! The tool for launch data as a program. It works on an image of the files that its command line
and its environment name, and writes back the one that is to change. -/
namespace RuntimeLauncher.Console

def variableNames : List String :=
  ["DOTNET_LAUNCHER_CONFIG", "DOTNET_LAUNCHER_LOG", "DOTNET_LAUNCHER_DEBUG",
    "DOTNET_LAUNCHER_SENTINEL_NAME", "DOTNET_LAUNCHER_FALLBACK_BINARY",
    "DOTNET_LAUNCHER_ARTIFACT_EXTENSION"]

def filesOf : Tool.Request → List Path
  | .embed r => r.launcher :: r.output :: r.entries.toList
  | .dump r => [r.binary]

def outputOf : Tool.Request → Option Path
  | .embed r => some r.output
  | .dump _ => none

/-- The settings file that variables name, in both of its spellings. -/
def settingsFiles (env : List (Text × Text)) : List Path :=
  match Settings.fileOf env with
  | none => []
  | some file => file :: (Path.appendExtension file Settings.fileExtension).toList

def addFile (fs : FileSystem) (path : Path) : IO FileSystem := do
  match ← (IO.FS.readBinFile (String.ofList path)).toBaseIO with
  | .ok bytes => return fs.place path (.file bytes.toList {})
  | .error (.inappropriateType ..) => return fs.place path .directory
  | .error (.permissionDenied ..) => return fs.place path (.file [] ⟨false, false, false⟩)
  | .error _ => return fs

def readVariables : IO (List (Text × Text)) :=
  variableNames.filterMapM fun name => do
    return (← IO.getEnv name).map fun value => (name.toList, value.toList)

/-- Everyone may read and run a launcher, and its owner may change it. -/
def launcherRights : IO.FileRight :=
  ⟨⟨true, true, true⟩, ⟨true, false, true⟩, ⟨true, false, true⟩⟩

/-- Writes a launcher whose content is another than before. -/
def writeBack (before after : FileSystem) (path : Path) : IO Unit := do
  match (after.read path).toOption with
  | none => return ()
  | some bytes =>
    if (before.read path).toOption ≠ some bytes then
      IO.FS.writeBinFile (String.ofList path) ⟨bytes.toArray⟩
      IO.setAccessRights (String.ofList path) launcherRights

def printRecord (record : Record) : IO Unit :=
  IO.eprintln (String.ofList (record.level.name ++ ' ' :: record.target ++ ": ".toList ++
    record.message))

def runTool (args : List String) : IO UInt32 := do
  let args : List Tool.Word := args.map fun arg => ⟨arg.toList, true⟩
  let env ← readVariables
  let request := (Tool.Usage.parse args).toOption
  let directory := (toString (← IO.currentDir)).toList
  let files := settingsFiles env ++ (request.map filesOf).getD []
  let before ← files.foldlM addFile (FileSystem.empty directory)
  let (exit, after) := Program.tool env args before
  (request.bind outputOf).forM (writeBack before after)
  exit.log.forM printRecord
  IO.print (String.ofList exit.printed)
  exit.report.forM fun report => IO.eprintln ("launch-data: " ++ String.ofList report)
  return UInt32.ofNat exit.code

end RuntimeLauncher.Console

def main (args : List String) : IO UInt32 := RuntimeLauncher.Console.runTool args
