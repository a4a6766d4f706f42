import RuntimeLauncher.Launch.Plan
import RuntimeLauncher.Proofs.Machine.Passing

/-! The command line of a planned launch: the words of the build around the words of the user. -/
namespace RuntimeLauncher

theorem LaunchData.require_eq_ok_iff {data : LaunchData} {key value : Text} :
    data.require key = .ok value ↔ data.get? key = some value := by
  unfold LaunchData.require
  cases data.get? key with
  | none => simp
  | some found => simp

theorem Variant.eq_name_of_ofName {name : Text} {variant : Variant}
    (h : Variant.ofName name = .ok variant) : name = variant.name := by
  unfold Variant.ofName at h
  split at h
  · cases h
    assumption
  · split at h
    · cases h
      assumption
    · contradiction

/-- The word for the runtime command, if there is one that is not empty. -/
inductive LaunchData.CommandWord (data : LaunchData) : List Text → Prop
  | absent (h : ∀ command, data.get? commandKey = some command → command = []) : CommandWord data []
  | present {command : Text} (h : data.get? commandKey = some command) (hne : command ≠ []) :
    CommandWord data [command]

namespace Launcher

/-- The file that a test logger writes. -/
inductive XmlFile (env : Variables) : Text → Prop
  | given {file : Text} (h : env xmlOutputFile = some file) (hne : file ≠ []) : XmlFile env file
  | default (h : ∀ file, env xmlOutputFile = some file → file = []) : XmlFile env "test.xml".toList

/-- The words in front of those of the user, for a launcher that is started as `argv0`. -/
def Leading (l : Launcher) (variant : Variant) (argv0 : Text) (words : List Text) : Prop :=
  ∃ command, l.data.CommandWord command ∧
    words = command ++ l.data.list LaunchData.runtimeArgumentsKey ++
      artifactPath l.host variant.suffix l.runtime.artifactExtension argv0 ::
        l.data.list LaunchData.assemblyArgumentsKey

/-- The words behind those of the user: a logger, if the runtime command is that of a test. -/
inductive Trailing (l : Launcher) : List Text → Prop
  | other (h : l.data.get? LaunchData.commandKey ≠ some "test".toList) : Trailing l []
  | test {logger name file : Text} (h : l.data.get? LaunchData.commandKey = some "test".toList)
    (hlogger : l.data.get? LaunchData.loggerKey = some logger)
    (hname : l.data.get? LaunchData.logPathKey = some name) (hfile : XmlFile l.host.env file) :
    Trailing l ["--logger".toList, logger ++ ";".toList ++ name ++ "=".toList ++ file]

/-- The arguments of a command, where all words but those of the user are passed as they are. -/
def argumentsAround (l : Launcher) (leading trailing user : List Text) : List Argument :=
  leading.map .verbatim ++ user.map (fun word => .escaped (l.host.escape word)) ++
    trailing.map .verbatim

/-- The plan for a launch that is prepared and whose arguments are known. -/
def planned (l : Launcher) (prepared : Preparation) (arguments : List Argument) : Plan :=
  let binary := resolveBinary l.host l.runtime l.runfiles prepared.configured
  ⟨prepared.variant, binary, ⟨binary.path, arguments, prepared.environment⟩⟩

theorem commandWord_iff {data : LaunchData} {words : List Text} :
    data.CommandWord words ↔ words = data.command?.toList := by
  constructor
  · intro h
    cases h with
    | absent h => rw [LaunchData.command?, filter_nonempty_eq_none_iff.2 h, Option.toList_none]
    | present h hne =>
      rw [LaunchData.command?, filter_nonempty_eq_some_iff.2 ⟨h, hne⟩, Option.toList_some]
  · rintro rfl
    cases hcommand : data.command? with
    | none => exact .absent (filter_nonempty_eq_none_iff.1 hcommand)
    | some command =>
      obtain ⟨h, hne⟩ := filter_nonempty_eq_some_iff.1 hcommand
      exact .present h hne

theorem xmlFile_iff {env : Variables} {file : Text} :
    XmlFile env file ↔ file = (env.nonempty xmlOutputFile).getD defaultXmlFile := by
  constructor
  · intro h
    cases h with
    | given h hne =>
      rw [Variables.nonempty, filter_nonempty_eq_some_iff.2 ⟨h, hne⟩, Option.getD_some]
    | default h =>
      rw [Variables.nonempty, filter_nonempty_eq_none_iff.2 h, Option.getD_none]
      rfl
  · rintro rfl
    cases hfile : env.nonempty xmlOutputFile with
    | none => exact .default (filter_nonempty_eq_none_iff.1 hfile)
    | some file =>
      obtain ⟨h, hne⟩ := filter_nonempty_eq_some_iff.1 hfile
      exact .given h hne

theorem command?_eq_some_test_iff {data : LaunchData} :
    data.command? = some testCommand ↔ data.get? LaunchData.commandKey = some "test".toList := by
  unfold LaunchData.command?
  rw [filter_nonempty_eq_some_iff]
  exact ⟨fun h => h.1, fun h => ⟨h, by decide⟩⟩

theorem loggerArgument_eq_ok_iff {l : Launcher} {argument : Text} :
    l.loggerArgument = .ok argument ↔
      ∃ logger name file, l.data.get? LaunchData.loggerKey = some logger ∧
        l.data.get? LaunchData.logPathKey = some name ∧ XmlFile l.host.env file ∧
        argument = logger ++ ";".toList ++ name ++ "=".toList ++ file := by
  unfold loggerArgument
  simp only [bind_eq_ok_iff, LaunchData.require_eq_ok_iff, pure_eq_ok, Except.ok.injEq, xmlFile_iff]
  constructor
  · rintro ⟨logger, hlogger, name, hname, rfl⟩
    exact ⟨logger, name, _, hlogger, hname, rfl, by simp⟩
  · rintro ⟨logger, name, file, hlogger, hname, rfl, rfl⟩
    exact ⟨logger, hlogger, name, hname, by simp⟩

theorem loggerArguments_eq_ok_iff {l : Launcher} {arguments : List Argument} :
    l.loggerArguments = .ok arguments ↔
      ∃ words, l.Trailing words ∧ arguments = words.map .verbatim := by
  unfold loggerArguments
  by_cases htest : l.data.command? = some testCommand
  · have h := command?_eq_some_test_iff.1 htest
    simp only [if_pos htest, bind_eq_ok_iff, loggerArgument_eq_ok_iff, pure_eq_ok, Except.ok.injEq]
    constructor
    · rintro ⟨_, ⟨logger, name, file, hlogger, hname, hfile, rfl⟩, rfl⟩
      exact ⟨_, .test h hlogger hname hfile, rfl⟩
    · rintro ⟨words, htrailing, rfl⟩
      cases htrailing with
      | other hother => exact absurd h hother
      | test _ hlogger hname hfile =>
        exact ⟨_, ⟨_, _, _, hlogger, hname, hfile, rfl⟩, rfl⟩
  · have h := mt command?_eq_some_test_iff.2 htest
    rw [if_neg htest]
    constructor
    · intro harguments
      cases harguments
      exact ⟨[], .other h, rfl⟩
    · rintro ⟨words, htrailing, rfl⟩
      cases htrailing with
      | other => rfl
      | test htest => exact absurd htest h

/-- A launch is planned if and only if its parts are, and the user's words do not count for that. -/
theorem plan_cons_eq_ok_iff {l : Launcher} {argv0 : Text} {rest : List Text} {p : Plan} :
    l.plan (argv0 :: rest) = .ok p ↔
      ∃ prepared leading trailing, l.prepare = .ok prepared ∧
        l.Leading prepared.variant argv0 leading ∧ l.Trailing trailing ∧
        p = l.planned prepared (l.argumentsAround leading trailing rest) := by
  unfold plan
  simp only [bind_eq_ok_iff, artifactArguments, loggerArguments_eq_ok_iff, pure_eq_ok,
    Except.ok.injEq, Leading, commandWord_iff]
  constructor
  · rintro ⟨prepared, hprepared, _, ⟨trailing, htrailing, rfl⟩, rfl⟩
    refine ⟨prepared, _, trailing, hprepared, ⟨_, rfl, rfl⟩, htrailing, ?_⟩
    simp [planned, argumentsAround, arguments]
  · rintro ⟨prepared, _, trailing, hprepared, ⟨_, rfl, rfl⟩, htrailing, rfl⟩
    refine ⟨prepared, hprepared, _, ⟨trailing, htrailing, rfl⟩, ?_⟩
    simp [planned, argumentsAround, arguments]

/-- What is read to prepare a launch. -/
theorem exists_of_prepare {l : Launcher} {prepared : Preparation} (h : l.prepare = .ok prepared) :
    ∃ name declared, l.data.get? LaunchData.variantKey = some name ∧
      Variant.ofName name = .ok prepared.variant ∧
      l.data.get? LaunchData.runtimeKey = some prepared.configured ∧
      childEnvironment declared l.runfiles l.host.env = .ok prepared.environment := by
  unfold prepare at h
  simp only [bind_eq_ok_iff, LaunchData.require_eq_ok_iff, pure_eq_ok] at h
  obtain ⟨name, hname, variant, hvariant, configured, hconfigured, h⟩ := h
  split at h
  -- the kinds differ only in whether variables must be declared
  all_goals
    obtain ⟨declared, -, h⟩ := bind_eq_ok_iff.1 h
    obtain ⟨environment, henvironment, h⟩ := bind_eq_ok_iff.1 h
    rw [← Except.ok.inj h]
    exact ⟨name, declared, hname, hvariant, hconfigured, henvironment⟩

theorem variant_of_prepare {l : Launcher} {prepared : Preparation} (h : l.prepare = .ok prepared) :
    l.data.get? LaunchData.variantKey = some prepared.variant.name := by
  obtain ⟨name, -, hname, hvariant, -, -⟩ := exists_of_prepare h
  rw [hname, Variant.eq_name_of_ofName hvariant]

end Launcher

end RuntimeLauncher
