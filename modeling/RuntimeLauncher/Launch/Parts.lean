import RuntimeLauncher.Launch.Basic
import RuntimeLauncher.Runfiles.Discovery
import RuntimeLauncher.Settings.Runtime

/-! What a launch is put together from: the runtime binary that a configured name stands for, the
artifact beside the launcher with the arguments that follow it, and the variables set for the child,
so that it finds the same runfiles. -/
namespace RuntimeLauncher

structure ResolvedBinary where
  path : Path
  usedFallback : Bool
  deriving DecidableEq, Repr

/-- The sentinel name itself or with an extension. A path with separators is a runfile. -/
def isSentinel (configured sentinel : Text) : Bool :=
  Path.isBareName configured && Path.stripExtension configured == sentinel

def candidate? (runtime : RuntimeSettings) (runfiles : Runfiles) (configured : Text) :
    Option Path :=
  if isSentinel configured runtime.sentinelName then some configured
  else runfiles.location? configured

/-- The candidate if it is a file, and else the fallback, which is looked up when it is started. -/
def resolveBinary (host : Host) (runtime : RuntimeSettings) (runfiles : Runfiles)
    (configured : Text) : ResolvedBinary :=
  match (candidate? runtime runfiles configured).filter host.fileExists with
  | some path => ⟨path, false⟩
  | none => ⟨runtime.fallbackBinary, true⟩

def resolutionEvent (host : Host) (runtime : RuntimeSettings) (runfiles : Runfiles)
    (configured : Text) : Event :=
  let candidate := candidate? runtime runfiles configured
  match candidate.filter host.fileExists with
  | some path => .runtimeFound configured path
  | none => .runtimeMissing configured candidate runtime.fallbackBinary

/-- The path of the artifact for a launcher that was started as `argv0`. -/
def artifactPath (host : Host) (suffix : ArtifactSuffix) (extension argv0 : Text) : Path :=
  match suffix with
  | .append => Path.withExtension (host.longPath argv0) extension
  | .keep => Path.stripExtension (host.longPath argv0)

/-- The artifact for the first argument, and the other arguments quoted. -/
def artifactArguments (host : Host) (suffix : ArtifactSuffix) (extension : Text) :
    List Text → Option (Argument × List Argument)
  | [] => none
  | argv0 :: rest =>
    some (.verbatim (artifactPath host suffix extension argv0),
      rest.map fun arg => .escaped (host.escape arg))

/-- The runfiles variables that the launcher's own environment leaves unset or empty. -/
def runfilesAssignments (runfiles : Runfiles) (env : Variables) : List (Text × Text) :=
  (if (env.nonempty Variables.runfilesDirectory).isSome then []
    else [(Variables.runfilesDirectory, runfiles.directory)]) ++
  match runfiles.manifestFile with
  | none => []
  | some manifest =>
    if (env.nonempty Variables.runfilesManifest).isSome then []
    else [(Variables.runfilesManifest, manifest)]

/-- The runfiles variables, and after them the assignments that launch data asks for. -/
def childEnvironment (declared : Option Text) (runfiles : Runfiles) (env : Variables) :
    Except LaunchError Assignments :=
  match Assignments.parse (declared.getD []) with
  | .error entry => .error (.malformedEntry entry)
  | .ok pairs => .ok ⟨runfilesAssignments runfiles env ++ pairs⟩

end RuntimeLauncher
