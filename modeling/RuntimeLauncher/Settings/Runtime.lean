import RuntimeLauncher.Path.Name
import RuntimeLauncher.Text.Characters

/-! Runtime settings: which name means the installed runtime, what to run when a runtime is missing,
and the extension of compiled artifacts. -/
namespace RuntimeLauncher

inductive SettingsError where
  /-- A source that cannot be read, or whose content is not of its format. -/
  | unreadable (source : Text)
  | malformed (source : Text)
  | emptyField (source field : Text)
  /-- An artifact extension that starts with a dot or holds a separator. -/
  | badExtension (source : Text)
  deriving DecidableEq, Repr

namespace SettingsError

def message : SettingsError → Text
  | .unreadable source => "Failed to read launcher configuration ".toList ++ source
  | .malformed source => "Failed to parse launcher configuration ".toList ++ source
  | .emptyField source field =>
    "Launcher configuration ".toList ++ source ++ " has invalid `".toList ++ field ++
      "`: must not be empty".toList
  | .badExtension source =>
    "Launcher configuration ".toList ++ source ++ " has invalid `artifact_extension`: ".toList ++
      "use a bare extension such as `dll`, without dots or separators".toList

end SettingsError

structure RuntimeSettings where
  sentinelName : Text
  fallbackBinary : Text
  artifactExtension : Text
  deriving DecidableEq, Repr

namespace RuntimeSettings

def sentinelField : Text := "sentinel_name".toList

def fallbackField : Text := "fallback_binary".toList

def extensionField : Text := "artifact_extension".toList

def standard : RuntimeSettings := ⟨"dotnet".toList, "dotnet".toList, "dll".toList⟩

/-- Standard values for the settings that are not given. -/
def ofOptions (sentinel fallback extension : Option Text) : RuntimeSettings :=
  ⟨sentinel.getD standard.sentinelName, fallback.getD standard.fallbackBinary,
    extension.getD standard.artifactExtension⟩

/-- The first setting that is not acceptable, in the order of the fields. -/
def error? (source : Text) (s : RuntimeSettings) : Option SettingsError :=
  if Text.blank s.sentinelName then some (.emptyField source sentinelField)
  else if Text.blank s.fallbackBinary then some (.emptyField source fallbackField)
  else if Text.blank s.artifactExtension then some (.emptyField source extensionField)
  else if s.artifactExtension.head? = some '.' || s.artifactExtension.any Path.isSeparator then
    some (.badExtension source)
  else none

def validate (source : Text) (s : RuntimeSettings) : Except SettingsError RuntimeSettings :=
  match s.error? source with
  | some error => .error error
  | none => .ok s

end RuntimeSettings

end RuntimeLauncher
