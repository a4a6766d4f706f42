import RuntimeLauncher.Proofs.Environment.Entries
import RuntimeLauncher.Proofs.Launch.CommandLine

/-! Launches that are not planned: what can be missing or wrong, and which of it is reported. -/
namespace RuntimeLauncher

/-- What stands in the way of a launch, with its place in the order in which such things count and
the error that reports it. -/
inductive Obstacle (data : LaunchData) (args : List Text) : Nat → LaunchError → Prop
  | variantMissing (h : data.get? LaunchData.variantKey = none) :
    Obstacle data args 1 (.missingKey LaunchData.variantKey)
  | variantUnknown {name : Text} (h : data.get? LaunchData.variantKey = some name)
    (hdotnet : name ≠ "Dotnet".toList) (hlegacy : name ≠ "DotnetLegacy".toList) :
    Obstacle data args 2 (.unknownVariant name)
  | runtimeMissing (h : data.get? LaunchData.runtimeKey = none) :
    Obstacle data args 3 (.missingKey LaunchData.runtimeKey)
  | environmentMissing (hvariant : data.get? LaunchData.variantKey = some "Dotnet".toList)
    (h : data.get? LaunchData.environmentKey = none) :
    Obstacle data args 4 (.missingKey LaunchData.environmentKey)
  | entryMalformed {raw entry : Text} (h : data.get? LaunchData.environmentKey = some raw)
    (hentry : (raw.splitOn ';').find? (Assignments.Malformed ·) = some entry) :
    Obstacle data args 5 (.malformedEntry entry)
  | argumentsMissing (h : args = []) : Obstacle data args 6 .missingArgv0
  | loggerMissing (hcommand : data.get? LaunchData.commandKey = some "test".toList)
    (h : data.get? LaunchData.loggerKey = none) :
    Obstacle data args 7 (.missingKey LaunchData.loggerKey)
  | logPathMissing (hcommand : data.get? LaunchData.commandKey = some "test".toList)
    (h : data.get? LaunchData.logPathKey = none) :
    Obstacle data args 8 (.missingKey LaunchData.logPathKey)

/-- The error of an obstacle that no other one comes before. -/
def FirstObstacle (data : LaunchData) (args : List Text) (error : LaunchError) : Prop :=
  ∃ place, Obstacle data args place error ∧
    ∀ other otherError, Obstacle data args other otherError → place ≤ other

/-- None of the first obstacles is there. -/
def Clear (data : LaunchData) (args : List Text) (count : Nat) : Prop :=
  ∀ place error, Obstacle data args place error → count < place

/-- A step of planning either fails with the first obstacle, or it ends well. -/
def Reports {α : Type} (data : LaunchData) (args : List Text) (good : α → Prop) :
    Except LaunchError α → Prop
  | .error error => FirstObstacle data args error
  | .ok a => good a

section Steps
variable {data : LaunchData} {args : List Text} {count : Nat}

theorem Obstacle.unique {place : Nat} {error error' : LaunchError}
    (h : Obstacle data args place error) (h' : Obstacle data args place error') :
    error = error' := by
  cases h <;> cases h' <;> simp_all

theorem FirstObstacle.unique {error error' : LaunchError} (h : FirstObstacle data args error)
    (h' : FirstObstacle data args error') : error = error' := by
  obtain ⟨place, hplace, hfirst⟩ := h
  obtain ⟨place', hplace', hfirst'⟩ := h'
  obtain rfl := Nat.le_antisymm (hfirst place' error' hplace') (hfirst' place error hplace)
  exact hplace.unique hplace'

theorem clear_zero : Clear data args 0 := by
  intro place error h
  cases h <;> decide

theorem Clear.succ (h : Clear data args count)
    (hnext : ∀ error, ¬ Obstacle data args (count + 1) error) : Clear data args (count + 1) := by
  intro place error hobstacle
  refine lt_of_le_of_ne (h place error hobstacle) ?_
  rintro rfl
  exact hnext error hobstacle

/-- There are eight obstacles. -/
theorem Clear.not_obstacle (h : Clear data args 8) {place : Nat} {error : LaunchError} :
    ¬ Obstacle data args place error := by
  intro hobstacle
  have hplace := h place error hobstacle
  cases hobstacle <;> omega

theorem Clear.first {error : LaunchError} (h : Clear data args count)
    (hnext : Obstacle data args (count + 1) error) : FirstObstacle data args error :=
  ⟨count + 1, hnext, h⟩

theorem Reports.bind {α β : Type} {good : α → Prop} {good' : β → Prop}
    {first : Except LaunchError α} {next : α → Except LaunchError β}
    (h : Reports data args good first) (hnext : ∀ a, good a → Reports data args good' (next a)) :
    Reports data args good' (first >>= next) := by
  cases first with
  | error error => exact h
  | ok a => exact hnext a h

theorem Reports.map {α β : Type} {good : α → Prop} {good' : β → Prop}
    {step : Except LaunchError α} (h : Reports data args good step) {f : α → β}
    (hgood : ∀ a, good a → good' (f a)) : Reports data args good' (f <$> step) := by
  cases step with
  | error error => exact h
  | ok a => exact hgood a h

/-- A key is looked up, of which only the next obstacle says that it is missing. -/
theorem Clear.reports_require (h : Clear data args count) {key : Text}
    (hmissing : data.get? key = none → Obstacle data args (count + 1) (.missingKey key))
    (honly : ∀ error, Obstacle data args (count + 1) error → data.get? key = none) :
    Reports data args (fun value => data.get? key = some value ∧ Clear data args (count + 1))
      (data.require key) := by
  unfold LaunchData.require
  cases hvalue : data.get? key with
  | none => exact h.first (hmissing hvalue)
  | some value =>
    refine ⟨rfl, h.succ fun error hobstacle => ?_⟩
    have hnone := honly error hobstacle
    rw [hvalue] at hnone
    contradiction

theorem Clear.reports_variant (h : Clear data args 1) {name : Text}
    (hname : data.get? LaunchData.variantKey = some name) :
    Reports data args
      (fun variant => data.get? LaunchData.variantKey = some variant.name ∧ Clear data args 2)
      (Variant.ofName name) := by
  have hknown {variant : Variant} (hvariant : name = variant.name) : Clear data args 2 :=
    h.succ fun error hobstacle => by
      cases hobstacle with
      | variantUnknown hname' hdotnet hlegacy =>
        obtain rfl := Option.some.inj (hname.symm.trans hname')
        cases variant with
        | dotnet => exact hdotnet hvariant
        | dotnetLegacy => exact hlegacy hvariant
  unfold Variant.ofName
  split_ifs with hdotnet hlegacy
  · exact ⟨hdotnet ▸ hname, hknown hdotnet⟩
  · exact ⟨hlegacy ▸ hname, hknown hlegacy⟩
  · exact h.first (.variantUnknown hname hdotnet hlegacy)

theorem Clear.reports_environment (h : Clear data args 4) (runfiles : Runfiles) (env : Variables) :
    Reports data args (fun _ => Clear data args 5)
      (childEnvironment (data.get? LaunchData.environmentKey) runfiles env) := by
  unfold childEnvironment
  cases hparse : Assignments.parse ((data.get? LaunchData.environmentKey).getD []) with
  | error entry =>
    cases hraw : data.get? LaunchData.environmentKey with
    | none => simp [hraw, Assignments.parse] at hparse
    | some raw =>
      rw [hraw] at hparse
      exact h.first (.entryMalformed hraw (Assignments.parse_eq_error_iff.1 hparse))
  | ok pairs =>
    refine h.succ fun error hobstacle => ?_
    cases hobstacle with
    | entryMalformed hraw hentry =>
      rw [hraw, Option.getD_some, Assignments.parse_eq_error_iff.2 hentry] at hparse
      contradiction

end Steps

namespace Launcher
variable (l : Launcher) (args : List Text)

theorem reports_prepare : Reports l.data args (fun _ => Clear l.data args 5) l.prepare := by
  unfold prepare
  have hnothing : Clear l.data args 0 := clear_zero
  have hvariant := hnothing.reports_require .variantMissing fun error h => by
    cases h
    assumption
  refine hvariant.bind ?_
  rintro name ⟨hname, hclear⟩
  refine (hclear.reports_variant hname).bind ?_
  rintro variant ⟨hvariant, hclear⟩
  have hruntime := hclear.reports_require .runtimeMissing fun error h => by
    cases h
    assumption
  refine hruntime.bind ?_
  rintro configured ⟨-, hclear⟩
  -- whether variables must be declared is all that the two kinds differ in
  have hgiven (declared : Option Text) (h : l.data.get? LaunchData.environmentKey = declared ∧
      Clear l.data args 4) : Reports l.data args (fun _ => Clear l.data args 5) (do
        let environment ← childEnvironment declared l.runfiles l.host.env
        return (⟨variant, configured, environment⟩ : Preparation)) := by
    obtain ⟨rfl, hclear⟩ := h
    exact (hclear.reports_environment l.runfiles l.host.env).bind fun _ h => h
  cases variant with
  | dotnet =>
    have hraw := hclear.reports_require (.environmentMissing hvariant) fun error h => by
      cases h
      assumption
    have hdeclared : Reports l.data args (fun declared =>
        l.data.get? LaunchData.environmentKey = declared ∧ Clear l.data args 4)
        (some <$> l.data.require LaunchData.environmentKey) := hraw.map fun _ h => h
    exact hdeclared.bind hgiven
  | dotnetLegacy =>
    refine hgiven _ ⟨rfl, hclear.succ fun error hobstacle => ?_⟩
    cases hobstacle with
    | environmentMissing hdotnet =>
      rw [hdotnet] at hvariant
      exact absurd (Option.some.inj hvariant) (by decide)

theorem reports_loggerArguments (h : Clear l.data args 6) :
    Reports l.data args (fun _ => Clear l.data args 8) l.loggerArguments := by
  unfold loggerArguments
  by_cases htest : l.data.command? = some testCommand
  · have hcommand := command?_eq_some_test_iff.1 htest
    rw [if_pos htest]
    refine Reports.bind ?_ fun _ h => h
    unfold loggerArgument
    have hlogger := h.reports_require (.loggerMissing hcommand) fun error h => by
      cases h
      assumption
    refine hlogger.bind ?_
    rintro logger ⟨-, hclear⟩
    have hname := hclear.reports_require (.logPathMissing hcommand) fun error h => by
      cases h
      assumption
    exact hname.bind fun _ h => h.2
  · have hcommand := mt command?_eq_some_test_iff.2 htest
    rw [if_neg htest]
    have hlogger : Clear l.data args 7 := h.succ fun error hobstacle => by
      cases hobstacle with
      | loggerMissing htest => exact hcommand htest
    exact hlogger.succ fun error hobstacle => by
      cases hobstacle with
      | logPathMissing htest => exact hcommand htest

theorem reports_plan : Reports l.data args (fun _ => Clear l.data args 8) (l.plan args) := by
  unfold plan
  refine (l.reports_prepare args).bind fun prepared hclear => ?_
  cases args with
  | nil => exact hclear.first (.argumentsMissing rfl)
  | cons argv0 rest =>
    have harguments : Clear l.data (argv0 :: rest) 6 := hclear.succ fun error hobstacle => by
      cases hobstacle with
      | argumentsMissing hnil => contradiction
    exact (l.reports_loggerArguments _ harguments).bind fun _ h => h

theorem not_obstacle_of_plan {l : Launcher} {args : List Text} {p : Plan}
    (h : l.plan args = .ok p) {place : Nat} {error : LaunchError} :
    ¬ Obstacle l.data args place error := by
  have hreports := l.reports_plan args
  rw [h] at hreports
  exact hreports.not_obstacle

theorem plan_eq_error_iff {error : LaunchError} :
    l.plan args = .error error ↔ FirstObstacle l.data args error := by
  have hreports := l.reports_plan args
  cases hplan : l.plan args with
  | error found =>
    rw [hplan] at hreports
    refine ⟨fun h => Except.error.inj h ▸ hreports, fun h => ?_⟩
    rw [hreports.unique h]
  | ok p =>
    refine ⟨fun h => by contradiction, ?_⟩
    rintro ⟨place, hplace, -⟩
    exact absurd hplace (not_obstacle_of_plan hplan)

/-- A launch is not planned if and only if there is an obstacle, and the error is that of the first
one. Obstacles are a matter of the data and of whether there are arguments: what surrounds the
launcher counts for nothing. -/
theorem plan_refused_iff (l : Launcher) (args : List Text) :
    ((∃ error, l.plan args = .error error) ↔ ∃ place error, Obstacle l.data args place error) ∧
    (∀ error, l.plan args = .error error ↔ FirstObstacle l.data args error) ∧
    ∀ runtime runfiles host error,
      (⟨l.data, runtime, runfiles, host⟩ : Launcher).plan args = .error error ↔
        l.plan args = .error error := by
  refine ⟨⟨?_, ?_⟩, fun error => plan_eq_error_iff l args, fun runtime runfiles host error => ?_⟩
  · rintro ⟨error, herror⟩
    obtain ⟨place, hplace, -⟩ := (plan_eq_error_iff l args).1 herror
    exact ⟨place, error, hplace⟩
  · rintro ⟨place, error, hplace⟩
    cases hplan : l.plan args with
    | error found => exact ⟨found, rfl⟩
    | ok p => exact absurd hplace (not_obstacle_of_plan hplan)
  · rw [plan_eq_error_iff, plan_eq_error_iff]

/-- Data with all that can be wrong but the two keys that every launch needs. -/
example : (⟨LaunchData.ofList [(LaunchData.variantKey, "DotnetLegacy".toList),
      (LaunchData.runtimeKey, []), (LaunchData.environmentKey, ";A=1;=2;B".toList),
      (LaunchData.commandKey, "test".toList)], ⟨[], [], []⟩, .ofDirectory [],
    Host.system (FileSystem.empty "/w".toList) fun _ => none⟩ : Launcher).plan [] =
      .error (.malformedEntry "=2".toList) := by
  rfl

end Launcher

end RuntimeLauncher
