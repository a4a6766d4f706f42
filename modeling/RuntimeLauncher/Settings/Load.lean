import RuntimeLauncher.FileSystem.Basic
import RuntimeLauncher.Log.Event
import RuntimeLauncher.Settings.Layers
import RuntimeLauncher.Settings.Runtime

/-! Loading settings: variables layered on a file, and standard values under both. With them comes
the filter of the log, which variables also ask for before anything is loaded. -/
namespace RuntimeLauncher

namespace Verbosity

def offTexts : List Text := ["", "0", "false", "no", "off"].map String.toList

/-- Any other text switches debugging on. Blanks around a text and ASCII case do not count. -/
def debugEnabled (value : Text) : Bool :=
  !offTexts.contains (Text.toLowerAscii (Text.trim value))

/-- The filter that is asked for, unless it is blank. -/
def selectFilter (log : Option Text) (debug : Bool) : Text :=
  match log.filter (!Text.blank ·) with
  | some filter => filter
  | none => if debug then "debug".toList else "warn".toList

def logVariable : Text := "DOTNET_LAUNCHER_LOG".toList

def debugVariable : Text := "DOTNET_LAUNCHER_DEBUG".toList

def bootstrapFilter (env : Variables) : Text :=
  selectFilter (env logVariable) (((env debugVariable).map debugEnabled).getD false)

end Verbosity

structure Settings where
  debug : Bool
  log : Option Text
  runtime : RuntimeSettings
  /-- The file that the settings were layered on. -/
  file : Option Path
  deriving DecidableEq, Repr

namespace Settings

def debugField : Text := "debug".toList

def logField : Text := "log".toList

def fileVariable : Text := "DOTNET_LAUNCHER_CONFIG".toList

/-- What messages call the source of settings. -/
def source (file : Option Path) : Text := file.getD "environment".toList

def fileExtension : Text := "toml".toList

/-- The settings file that a path means: the file itself, whose extension must be the usual one, or
one with that extension added to its name. -/
def actualFile? (fs : FileSystem) (file : Path) : Option Path :=
  let file := Path.join fs.workingDirectory file
  if fs.isFile file then
    if Path.extension file = some fileExtension then some file else none
  else (Path.appendExtension file fileExtension).filter fs.isFile

def readTable? (fs : FileSystem) (file : Path) : Option Toml.Table :=
  match actualFile? fs file with
  | none => none
  | some file =>
    match fs.readText file with
    | .error _ => none
    | .ok text => Toml.parseMarked text

def layers (fs : FileSystem) (file : Option Path) (env : List (Text × Text)) :
    Except SettingsError Layers :=
  match file with
  | none => .ok (Layers.ofVariables env)
  | some path =>
    match readTable? fs path with
    | none => .error (.unreadable (source file))
    | some table => .ok (Layers.ofTable table ++ Layers.ofVariables env)

def textSetting (source : Text) (layers : Layers) (name : Text) :
    Except SettingsError (Option Text) :=
  match layers.get? name with
  | none => .ok none
  | some value =>
    match value.text? with
    | some text => .ok (some text)
    | none => .error (.malformed source)

/-- The debug switch: a flag, or a text that switches it on. -/
def debugSetting (source : Text) (layers : Layers) : Except SettingsError Bool :=
  match layers.get? debugField with
  | none => .ok false
  | some (.flag b) => .ok b
  | some (.text t) => .ok (Verbosity.debugEnabled t)
  | some (.number _) => .error (.malformed source)
  | some .compound => .error (.malformed source)
  | some .empty => .error (.malformed source)

/-- The settings that layers make. A value of the wrong type counts before one that is not
acceptable. -/
def ofLayers (file : Option Path) (layers : Layers) : Except SettingsError Settings := do
  let debug ← debugSetting (source file) layers
  let log ← textSetting (source file) layers logField
  let sentinel ← textSetting (source file) layers RuntimeSettings.sentinelField
  let fallback ← textSetting (source file) layers RuntimeSettings.fallbackField
  let extension ← textSetting (source file) layers RuntimeSettings.extensionField
  let runtime ← (RuntimeSettings.ofOptions sentinel fallback extension).validate (source file)
  return ⟨debug, log.filter (!Text.blank ·), runtime, file⟩

def load (fs : FileSystem) (file : Option Path) (env : List (Text × Text)) :
    Except SettingsError Settings := do
  ofLayers file (← layers fs file env)

def loadEvents : Except SettingsError Settings → List Event
  | .error (.unreadable source) => [.settingsUnreadable source]
  | .error (.malformed source) => [.settingsMalformed source]
  | .error (.emptyField ..) => []
  | .error (.badExtension _) => []
  | .ok s => [.settingsLoaded s.file s.debug s.runtime.sentinelName s.runtime.fallbackBinary
      s.runtime.artifactExtension]

def fileOf (env : List (Text × Text)) : Option Path :=
  (Variables.ofList env).nonempty fileVariable

/-- Settings from variables alone, one of which may name a file. -/
def ofEnvironment (fs : FileSystem) (env : List (Text × Text)) :
    Except SettingsError Settings :=
  load fs (fileOf env) env

def environmentEvents (fs : FileSystem) (env : List (Text × Text)) : List Event :=
  .settingsSought (fileOf env) :: loadEvents (ofEnvironment fs env)

def filter (s : Settings) : Text := Verbosity.selectFilter s.log s.debug

end Settings

end RuntimeLauncher
