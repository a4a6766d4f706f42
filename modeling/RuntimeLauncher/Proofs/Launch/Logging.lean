import RuntimeLauncher.Proofs.LaunchData.Insertion
import RuntimeLauncher.Proofs.Launch.CommandLine
import RuntimeLauncher.Proofs.Launch.Running

/-! What the log of a run tells of the variables for the child: their names, and nothing of their
values. -/
namespace RuntimeLauncher

/-- Two declarations of the same names in the same order, with any values. -/
def SameNames (declared declared' : Text) : Prop :=
  ∃ pairs pairs', Assignments.parse declared = .ok pairs ∧ Assignments.parse declared' = .ok pairs' ∧
    pairs'.map (·.1) = pairs.map (·.1)

/-- Data that differ at most in the values of the variables that they declare. -/
structure LaunchData.SameButValues (data data' : LaunchData) : Prop where
  others : ∀ key, key ≠ environmentKey → data'.get? key = data.get? key
  declared : ∃ declared declared', data.get? environmentKey = some declared ∧
    data'.get? environmentKey = some declared' ∧ SameNames declared declared'

structure Preparation.SameButValues (prepared prepared' : Preparation) : Prop where
  variant : prepared'.variant = prepared.variant
  configured : prepared'.configured = prepared.configured
  keys : prepared'.environment.keys = prepared.environment.keys

structure Plan.SameButValues (plan plan' : Plan) : Prop where
  variant : plan'.variant = plan.variant
  binary : plan'.binary = plan.binary
  program : plan'.command.program = plan.command.program
  arguments : plan'.command.arguments = plan.command.arguments
  keys : plan'.command.environment.keys = plan.command.environment.keys

namespace LaunchData
variable {data data' : LaunchData}

theorem mem_keys_iff {key : Text} : key ∈ data.keys ↔ data.get? key ≠ none := by
  unfold get?
  rw [ne_eq, lookup_eq_none_iff_not_mem, not_not]
  rfl

namespace SameButValues

theorem keys_eq (h : SameButValues data data') : data'.keys = data.keys := by
  obtain ⟨declared, declared', hdeclared, hdeclared', -⟩ := h.declared
  apply data'.pairwise_keys.eq_of_mem_iff data.pairwise_keys
  intro key
  rw [mem_keys_iff, mem_keys_iff]
  by_cases hkey : key = environmentKey
  · rw [hkey, hdeclared, hdeclared']
    simp
  · rw [h.others key hkey]

theorem require_eq (h : SameButValues data data') {key : Text} (hkey : key ≠ environmentKey) :
    data'.require key = data.require key := by
  unfold require
  rw [h.others key hkey]

theorem list_eq (h : SameButValues data data') {key : Text} (hkey : key ≠ environmentKey) :
    data'.list key = data.list key := by
  unfold list
  rw [h.others key hkey]

theorem command?_eq (h : SameButValues data data') : data'.command? = data.command? := by
  unfold command?
  rw [h.others commandKey (by decide)]

end SameButValues

end LaunchData

theorem childEnvironment_of_sameNames {declared declared' : Text} (h : SameNames declared declared')
    (runfiles : Runfiles) (env : Variables) :
    SameResult (fun a a' => a'.keys = a.keys) (childEnvironment (some declared) runfiles env)
      (childEnvironment (some declared') runfiles env) := by
  obtain ⟨pairs, pairs', hparse, hparse', hnames⟩ := h
  unfold childEnvironment
  simp only [Option.getD_some, hparse, hparse']
  refine .ok ?_
  unfold Assignments.keys
  rw [List.map_append, List.map_append, hnames]

namespace Launcher
variable {l l' : Launcher}

/-- Two launchers in the same place whose data differ at most in values of variables. -/
structure SameButValues (l l' : Launcher) : Prop where
  data : l.data.SameButValues l'.data
  runtime : l'.runtime = l.runtime
  runfiles : l'.runfiles = l.runfiles
  host : l'.host = l.host

namespace SameButValues

theorem prepare (h : SameButValues l l') :
    SameResult Preparation.SameButValues l.prepare l'.prepare := by
  obtain ⟨declared, declared', hdeclared, hdeclared', hnames⟩ := h.data.declared
  have hrequire := LaunchData.require_eq_ok_iff.2 hdeclared
  have hrequire' := LaunchData.require_eq_ok_iff.2 hdeclared'
  unfold Launcher.prepare
  rw [h.data.require_eq (by decide), h.data.require_eq (by decide), h.runfiles, h.host]
  refine (SameResult.refl _).bind ?_
  rintro name _ rfl
  refine (SameResult.refl _).bind ?_
  rintro variant _ rfl
  refine (SameResult.refl _).bind ?_
  rintro configured _ rfl
  have hgiven : SameResult Preparation.SameButValues
      (childEnvironment (some declared) l.runfiles l.host.env >>= fun environment =>
        .ok ⟨variant, configured, environment⟩)
      (childEnvironment (some declared') l.runfiles l.host.env >>= fun environment =>
        .ok ⟨variant, configured, environment⟩) := by
    refine (childEnvironment_of_sameNames hnames l.runfiles l.host.env).bind ?_
    intro environment environment' hkeys
    exact .ok ⟨rfl, rfl, hkeys⟩
  -- both launchers declare variables, so it does not matter whether they must
  cases variant with
  | dotnet =>
    rw [hrequire, hrequire']
    exact hgiven
  | dotnetLegacy =>
    rw [hdeclared, hdeclared']
    exact hgiven

theorem loggerArguments_eq (h : SameButValues l l') : l'.loggerArguments = l.loggerArguments := by
  unfold loggerArguments loggerArgument
  rw [h.data.command?_eq, h.data.require_eq (by decide), h.data.require_eq (by decide), h.host]

theorem arguments_eq (h : SameButValues l l') (artifact : Argument) (user logger : List Argument) :
    l'.arguments artifact user logger = l.arguments artifact user logger := by
  unfold arguments
  rw [h.data.command?_eq, h.data.list_eq (by decide), h.data.list_eq (by decide)]

theorem plan (h : SameButValues l l') (args : List Text) :
    SameResult Plan.SameButValues (l.plan args) (l'.plan args) := by
  unfold Launcher.plan
  refine h.prepare.bind ?_
  intro prepared prepared' hprepared
  dsimp only
  rw [hprepared.variant, hprepared.configured, h.runtime, h.runfiles, h.host, h.loggerArguments_eq]
  cases artifactArguments l.host prepared.variant.suffix l.runtime.artifactExtension args with
  | none => exact .error LaunchError.missingArgv0
  | some words =>
    refine (SameResult.refl _).bind ?_
    rintro logger _ rfl
    exact .ok ⟨rfl, rfl, rfl, h.arguments_eq _ _ _, hprepared.keys⟩

theorem planEvents_eq (h : SameButValues l l') (args : List Text) :
    l'.planEvents args = l.planEvents args := by
  unfold planEvents
  rcases h.prepare.error_or_ok with
    ⟨error, hprepare, hprepare'⟩ | ⟨prepared, prepared', hprepare, hprepare', hprepared⟩
  · rw [hprepare, hprepare']
  · rw [hprepare, hprepare']
    dsimp only
    rw [hprepared.keys, hprepared.configured, h.runtime, h.runfiles, h.host]
    rcases (h.plan args).error_or_ok with
      ⟨error, hplan, hplan'⟩ | ⟨plan, plan', hplan, hplan', hsame⟩
    · rw [hplan, hplan']
    · rw [hplan, hplan']
      dsimp only
      rw [hsame.variant, Command.argv, Command.argv, hsame.arguments]

end SameButValues

section Launch
variable {World World' : Type} {l l' : Launcher} {start : Start World} {start' : Start World'}
  {args : List Text} {world : World} {world' : World'}

theorem events_launch_of_refused {error : LaunchError} (h : l.plan args = .error error) :
    (l.launch start args world).events = l.planEvents args := by
  unfold launch
  rw [h]
  rfl

/-- Of the child nothing is told but the code it ends with. -/
theorem events_launch_of_planned {plan : Plan} (h : l.plan args = .ok plan) :
    (l.launch start args world).events = l.planEvents args ++ plan.startEvents ++
      (l.launch start args world).outcome.toOption.toList.map
        (.runtimeExited plan.binary.path ·) := by
  unfold launch
  simp only [h]
  rcases start plan.command world with ⟨_ | _, _⟩
  · exact (List.append_nil _).symm
  · rfl

theorem SameButValues.events_launch_eq (h : SameButValues l l')
    (hcode : (l'.launch start' args world').outcome.toOption =
      (l.launch start args world).outcome.toOption) :
    (l'.launch start' args world').events = (l.launch start args world).events := by
  rcases (h.plan args).error_or_ok with
    ⟨error, hplan, hplan'⟩ | ⟨plan, plan', hplan, hplan', hsame⟩
  · rw [events_launch_of_refused hplan, events_launch_of_refused hplan', h.planEvents_eq]
  · have hstart : plan'.startEvents = plan.startEvents := by
      unfold Plan.startEvents Command.argv
      rw [hsame.variant, hsame.binary, hsame.arguments, hsame.keys]
    rw [events_launch_of_planned hplan, events_launch_of_planned hplan', h.planEvents_eq, hcode,
      hstart, hsame.binary]

end Launch

end Launcher

section Run
variable {World World' : Type} {fs : FileSystem} {exe binary : Path} {runtime : RuntimeSettings}
  {host : Host} {start : Start World} {start' : Start World'} {args : List Text} {world : World}
  {world' : World'} {location : Location} {image : Bytes} {access : Access}

/-- What a run logs does not depend on the values of the variables for its child. Two binaries in
the same place, with data that differ at most in these values, make the same log, entry by entry, if
their children end with the same code, or neither has one. -/
theorem events_run_of_sameButValues {image' : Bytes} {access' : Access} {data data' : LaunchData}
    (hfile : fs.FileAt binary location image access)
    (hmanifest : ¬ ReadsManifestAt fs exe host args location)
    (hdata : LaunchData.ofBinary fs binary = .ok data)
    (hdata' : LaunchData.ofBinary (fs.put location (some (.file image' access'))) binary = .ok data')
    (hsame : data.SameButValues data')
    (hcode : (run (fs.put location (some (.file image' access'))) exe binary runtime host start' args
        world').outcome.toOption =
      (run fs exe binary runtime host start args world).outcome.toOption) :
    (run (fs.put location (some (.file image' access'))) exe binary runtime host start' args
        world').events = (run fs exe binary runtime host start args world).events := by
  have hshape := hfile.sameShape_put image' access'
  revert hcode
  unfold run
  rw [hdata, hdata', hshape.workingDirectory]
  dsimp only
  rw [hsame.keys_eq]
  cases hlauncher : launcherPath fs.workingDirectory exe args.head? with
  | error error =>
    intro hcode
    rfl
  | ok launcher =>
    intro hcode
    have hread {manifest : Path} (hmanifestFile :
        (Runfiles.discover fs launcher (some fs.workingDirectory) host.env).manifestFile =
          some manifest) :
        (fs.put location (some (.file image' access'))).readText manifest = fs.readText manifest :=
      readText_put_of_not_readsManifestAt hfile hmanifest hlauncher hmanifestFile
    have hdiscover := Runfiles.discover_of_sameShape hshape fun manifest => hread
    have hdiscovery := Runfiles.discoveryEvents_of_sameShape hshape fun manifest => hread
    have hlaunchers : (Launcher.at fs data runtime host launcher).SameButValues
        (Launcher.at (fs.put location (some (.file image' access'))) data' runtime host launcher) :=
      ⟨hsame, rfl, hdiscover, rfl⟩
    dsimp only
    rw [hdiscovery, hlaunchers.events_launch_eq hcode]

end Run

/-- The data of the twins with another value for their variable. -/
def secretData (secret : Text) : LaunchData :=
  twinData.insert LaunchData.environmentKey ("A=".toList ++ secret)

def secretTree (secret : Text) : FileSystem :=
  twinTree.put ["w".toList, "first".toList]
    (some (.file ((secretData secret).encode.toOption.getD []) {}))

def secretCommand (secret : Text) : Command :=
  { twinCommand with
    environment := ⟨[(Variables.runfilesDirectory, "/w/first.runfiles".toList), (['A'], secret)]⟩ }

/-- A longer value, which holds an equals sign, is not to be told from the log. -/
theorem events_run_of_secret :
    (twinRun (secretTree "s=3".toList) "first".toList).events =
      (twinRun twinTree "first".toList).events ∧
    (twinRun (secretTree "s=3".toList) "first".toList).started = [secretCommand "s=3".toList] ∧
    (twinRun twinTree "first".toList).started = [twinCommand] := by
  have hfile : twinTree.FileAt "first".toList ["w".toList, "first".toList] (twinImage [0x7F]) {} :=
    ⟨rfl, rfl⟩
  have hdata : LaunchData.ofBinary twinTree "first".toList = .ok twinData := rfl
  have hdata' : LaunchData.ofBinary (secretTree "s=3".toList) "first".toList =
      .ok (secretData "s=3".toList) := rfl
  have hnames : SameNames "A=1".toList "A=s=3".toList :=
    ⟨[(['A'], ['1'])], [(['A'], "s=3".toList)], rfl, rfl, rfl⟩
  have hsame : twinData.SameButValues (secretData "s=3".toList) := by
    constructor
    · intro key hkey
      unfold secretData
      rw [LaunchData.get?_insert, if_neg hkey]
    · exact ⟨_, _, rfl, rfl, hnames⟩
  have hplan : PlansTo twinTree "/w/first".toList "first".toList .standard twinHost twinWords
      (.ok ⟨.dotnet, ⟨"dotnet".toList, true⟩, twinCommand⟩) :=
    ⟨twinData, "./first".toList, [['x']], "/w/first".toList, hdata, rfl, by decide, rfl, rfl⟩
  have hplan' : PlansTo (secretTree "s=3".toList) "/w/first".toList "first".toList .standard twinHost
      twinWords (.ok ⟨.dotnet, ⟨"dotnet".toList, true⟩, secretCommand "s=3".toList⟩) :=
    ⟨secretData "s=3".toList, "./first".toList, [['x']], "/w/first".toList, hdata', rfl, by decide,
      rfl, rfl⟩
  have heffect : (twinRun twinTree "first".toList).effect = ([twinCommand], .ok 7, 1) :=
    (Ends.exited hplan rfl).effect_eq
  have heffect' : (twinRun (secretTree "s=3".toList) "first".toList).effect =
      ([secretCommand "s=3".toList], .ok 7, 1) := (Ends.exited hplan' rfl).effect_eq
  have hcode : (twinRun (secretTree "s=3".toList) "first".toList).outcome =
      (twinRun twinTree "first".toList).outcome :=
    (congrArg (·.2.1) heffect').trans (congrArg (·.2.1) heffect).symm
  refine ⟨?_, congrArg (·.1) heffect', congrArg (·.1) heffect⟩
  exact events_run_of_sameButValues hfile (not_readsManifestAt_twin _) hdata hdata' hsame
    (congrArg Except.toOption hcode)

end RuntimeLauncher
