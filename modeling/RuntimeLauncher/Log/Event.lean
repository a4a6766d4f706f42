import RuntimeLauncher.FileSystem.Failure
import RuntimeLauncher.Log.Record
import RuntimeLauncher.Path.Basic
import RuntimeLauncher.Text.Quoted

/-! What the launcher and its tool report while they work. -/
namespace RuntimeLauncher

/-- Events carry the names of environment variables and never their values. -/
inductive Event where
  /-- The settings come from a file, or from the environment alone. -/
  | settingsSought (file : Option Path)
  | settingsUnreadable (source : Text)
  | settingsMalformed (source : Text)
  | settingsLoaded (file : Option Path) (debug : Bool) (sentinel fallback extension : Text)
  | launchDataRead (binary : Path) (keys : List Text)
  | launcherLocated (launcher : Path)
  | manifestUnreadable (manifest : Path) (cause : Failure)
  | runfilesLocated (directory : Path) (manifest : Option Path)
  | environmentPrepared (keys : List Text)
  | runtimeFound (configured resolved : Text)
  | runtimeMissing (configured : Text) (candidate : Option Text) (fallback : Text)
  | launchPlanned (variant : Text) (argv : List Text)
  | runtimeStarting (variant : Text) (binary : Path) (usedFallback : Bool)
  | argumentsPassed (argv keys : List Text)
  | runtimeExited (binary : Path) (code : Int)
  | dataEmbedded (output : Path) (keys : List Text)
  deriving DecidableEq, Repr

namespace Event

private def under (part : String) : Text := "dotnet_launcher::".toList ++ part.toList

private def field (name : String) (value : Text) : Text × FieldValue := (name.toList, .text value)

def record : Event → Record
  | .settingsSought (some file) =>
    ⟨.debug, under "config",
      "Loading launcher configuration using DOTNET_LAUNCHER_CONFIG".toList, [field "path" file]⟩
  | .settingsSought none =>
    ⟨.debug, under "config",
      "DOTNET_LAUNCHER_CONFIG not set; using environment and defaults".toList,
      [field "env" "DOTNET_LAUNCHER_CONFIG".toList]⟩
  | .settingsUnreadable source =>
    ⟨.error, under "config", "Failed to read launcher configuration".toList,
      [field "source" source, ("reason".toList, .unspecified)]⟩
  | .settingsMalformed source =>
    ⟨.error, under "config", "Failed to parse launcher configuration".toList,
      [field "source" source, ("reason".toList, .unspecified)]⟩
  | .settingsLoaded file debug sentinel fallback extension =>
    ⟨.debug, under "config", "Launcher configuration loaded".toList,
      [field "path" (Quoted.option file), ("debug".toList, .flag debug),
        field "sentinel_name" sentinel, field "fallback_binary" fallback,
        field "artifact_extension" extension]⟩
  | .launchDataRead binary keys =>
    ⟨.debug, under "launch_info", "Read launch data".toList,
      [field "path" binary, field "keys" (Quoted.list keys)]⟩
  | .launcherLocated launcher =>
    ⟨.debug, under "startup", "Resolved launcher path".toList, [field "launcher" launcher]⟩
  | .manifestUnreadable manifest cause =>
    ⟨.warn, under "runfiles", "Failed to read runfiles manifest".toList,
      [field "manifest" manifest, field "reason" cause.message]⟩
  | .runfilesLocated directory manifest =>
    ⟨.debug, under "runfiles", "Located runfiles".toList,
      [field "directory" directory, field "manifest" (Quoted.option manifest)]⟩
  | .environmentPrepared keys =>
    ⟨.debug, under "environment", "Prepared child environment".toList,
      [field "keys" (Quoted.list keys)]⟩
  | .runtimeFound configured resolved =>
    ⟨.debug, under "resolve", "Resolved runtime binary".toList,
      [field "configured" configured, field "resolved" resolved]⟩
  | .runtimeMissing configured candidate fallback =>
    ⟨.debug, under "resolve", "Runtime binary not found; falling back to PATH lookup".toList,
      [field "configured" configured, field "candidate" (Quoted.option candidate),
        field "fallback" fallback]⟩
  | .launchPlanned variant argv =>
    ⟨.debug, under "launch", "Planned launch".toList,
      [field "variant" variant, field "argv" (Quoted.list argv)]⟩
  | .runtimeStarting variant binary usedFallback =>
    ⟨.info, under "launch", "Launching runtime".toList,
      [field "binary_type" variant, field "binary" binary,
        ("used_fallback".toList, .flag usedFallback)]⟩
  | .argumentsPassed argv keys =>
    ⟨.debug, under "launch", "Launch arguments".toList,
      [field "args" (Quoted.list argv), field "env_keys" (Quoted.list keys)]⟩
  | .runtimeExited binary code =>
    ⟨.info, under "launch", "Runtime exited".toList,
      [field "binary" binary, ("exit_code".toList, .number code)]⟩
  | .dataEmbedded output keys =>
    ⟨.info, under "cli", "Embedded launch data".toList,
      [field "output" output, field "keys" (Quoted.list keys)]⟩

end Event

end RuntimeLauncher
