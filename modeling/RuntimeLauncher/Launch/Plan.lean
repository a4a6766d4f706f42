import RuntimeLauncher.Launch.Parts

/-! Everything that is decided before a child is started. -/
namespace RuntimeLauncher

namespace LaunchData

def variantKey : Text := "binary_type".toList

def runtimeKey : Text := "dotnet_bin_path".toList

def environmentKey : Text := "dotnet_env".toList

def commandKey : Text := "dotnet_cmd".toList

def runtimeArgumentsKey : Text := "dotnet_args".toList

def assemblyArgumentsKey : Text := "assembly_args".toList

def loggerKey : Text := "dotnet_logger".toList

def logPathKey : Text := "log_path_arg_name".toList

def command? (data : LaunchData) : Option Text := (data.get? commandKey).filter (· ≠ [])

end LaunchData

structure Plan where
  variant : Variant
  binary : ResolvedBinary
  command : Command
  deriving DecidableEq, Repr

/-- What a launcher was built with and what it found around it. -/
structure Launcher where
  data : LaunchData
  runtime : RuntimeSettings
  runfiles : Runfiles
  host : Host

structure Preparation where
  variant : Variant
  configured : Text
  environment : Assignments

namespace Launcher

def testCommand : Text := "test".toList

def xmlOutputFile : Text := "XML_OUTPUT_FILE".toList

def defaultXmlFile : Text := "test.xml".toList

/-- Reads what every launch needs and prepares the environment of the child. -/
def prepare (l : Launcher) : Except LaunchError Preparation := do
  let name ← l.data.require LaunchData.variantKey
  let variant ← Variant.ofName name
  let configured ← l.data.require LaunchData.runtimeKey
  let declared ←
    if variant.needsEnvironment then
      some <$> l.data.require LaunchData.environmentKey
    else .ok (l.data.get? LaunchData.environmentKey)
  let environment ← childEnvironment declared l.runfiles l.host.env
  return ⟨variant, configured, environment⟩

def loggerArgument (l : Launcher) : Except LaunchError Text := do
  let logger ← l.data.require LaunchData.loggerKey
  let name ← l.data.require LaunchData.logPathKey
  let file := (l.host.env.nonempty xmlOutputFile).getD defaultXmlFile
  return logger ++ ';' :: name ++ '=' :: file

def loggerArguments (l : Launcher) : Except LaunchError (List Argument) :=
  if l.data.command? = some testCommand then do
    let argument ← l.loggerArgument
    return [.verbatim "--logger".toList, .verbatim argument]
  else .ok []

/-- The runtime command and its arguments, the artifact, the arguments of the build, those of the
user, and the logger of a test. -/
def arguments (l : Launcher) (artifact : Argument) (user logger : List Argument) :
    List Argument :=
  l.data.command?.toList.map .verbatim ++
    (l.data.list LaunchData.runtimeArgumentsKey).map .verbatim ++
    artifact :: (l.data.list LaunchData.assemblyArgumentsKey).map .verbatim ++ user ++ logger

def plan (l : Launcher) (args : List Text) : Except LaunchError Plan := do
  let prepared ← l.prepare
  let binary := resolveBinary l.host l.runtime l.runfiles prepared.configured
  match artifactArguments l.host prepared.variant.suffix l.runtime.artifactExtension args with
  | none => .error .missingArgv0
  | some (artifact, user) => do
    let logger ← l.loggerArguments
    return ⟨prepared.variant, binary,
      ⟨binary.path, l.arguments artifact user logger, prepared.environment⟩⟩

def planEvents (l : Launcher) (args : List Text) : List Event :=
  match l.prepare with
  | .error _ => []
  | .ok prepared =>
    .environmentPrepared prepared.environment.keys ::
      resolutionEvent l.host l.runtime l.runfiles prepared.configured ::
      match l.plan args with
      | .error _ => []
      | .ok plan => [.launchPlanned plan.variant.name plan.command.argv]

end Launcher

end RuntimeLauncher
