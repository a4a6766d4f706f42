import RuntimeLauncher.Environment
import RuntimeLauncher.FileSystem.Basic
import RuntimeLauncher.LaunchData.Codec

/-! A child process to start, the host that is asked about what surrounds the launcher, the reasons
why a launch is given up, and the two kinds of launcher. -/
namespace RuntimeLauncher

inductive Argument where
  /-- Passed as it is; the platform quotes it. -/
  | verbatim (text : Text)
  /-- Quoted already. -/
  | escaped (text : Text)
  deriving DecidableEq, Repr

def Argument.text : Argument → Text
  | .verbatim text => text
  | .escaped text => text

structure Command where
  program : Path
  arguments : List Argument
  environment : Assignments
  deriving DecidableEq, Repr

def Command.argv (command : Command) : List Text := command.arguments.map Argument.text

/-- The answers a launcher needs from its surroundings. -/
structure Host where
  env : Variables
  fileExists : Path → Bool
  /-- The path with its short aliases expanded. -/
  longPath : Path → Path
  /-- An argument so that the child reads it unchanged. -/
  escape : Text → Text

/-- A host that passes arguments as a list, so that nothing needs quoting, and that has no short
aliases. -/
def Host.system (fs : FileSystem) (env : Variables) : Host :=
  ⟨env, fs.isFile, id, id⟩

inductive LaunchError where
  | launchData (cause : LaunchData.Error)
  | missingKey (key : Text)
  | unknownVariant (name : Text)
  | malformedEntry (entry : Text)
  | missingArgv0
  | spawn (program : Path) (cause : Failure)
  deriving DecidableEq, Repr

namespace LaunchError

def message : LaunchError → Text
  | .launchData cause => "failed to parse launch info: ".toList ++ cause.message
  | .missingKey key => "cannot find key \"".toList ++ key ++ "\" from launch data".toList
  | .unknownVariant name =>
    "unknown binary type `".toList ++ name ++ "`, cannot launch anything".toList
  | .malformedEntry entry =>
    "malformed dotnet environment entry `".toList ++ entry ++ "`: expected KEY=VALUE".toList
  | .missingArgv0 => "no command line arguments: cannot locate the user assembly".toList
  | .spawn program cause => "failed to launch ".toList ++ program ++ ": ".toList ++ cause.message

end LaunchError

def LaunchData.require (data : LaunchData) (key : Text) : Except LaunchError Text :=
  match data.get? key with
  | some value => .ok value
  | none => .error (.missingKey key)

/-- What becomes of the extension of a launcher in the name of its artifact. -/
inductive ArtifactSuffix where
  /-- It is replaced by the artifact extension. -/
  | append
  /-- It is dropped. -/
  | keep
  deriving DecidableEq, Repr

inductive Variant where
  | dotnet
  | dotnetLegacy
  deriving DecidableEq, Repr

namespace Variant

def name : Variant → Text
  | .dotnet => "Dotnet".toList
  | .dotnetLegacy => "DotnetLegacy".toList

def ofName (name : Text) : Except LaunchError Variant :=
  if name = Variant.dotnet.name then .ok .dotnet
  else if name = Variant.dotnetLegacy.name then .ok .dotnetLegacy
  else .error (.unknownVariant name)

def suffix : Variant → ArtifactSuffix
  | .dotnet => .append
  | .dotnetLegacy => .keep

/-- Whether launch data must say which variables the child gets. -/
def needsEnvironment : Variant → Bool
  | .dotnet => true
  | .dotnetLegacy => false

end Variant

end RuntimeLauncher
