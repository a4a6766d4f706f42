import RuntimeLauncher.Launch.Run
import RuntimeLauncher.Proofs.FileSystem.Replacement
import RuntimeLauncher.Proofs.Runfiles.Propagation

/-! Running a launcher: what is started, with what result, and how little of the binary counts. -/
namespace RuntimeLauncher

variable {World : Type}

/-- What a run did and how it ended, the log apart. -/
def Run.effect (r : Run World) : List Command × Except LaunchError Int × World :=
  (r.started, r.outcome, r.world)

/-- A way to start commands that also takes down each command it is given. -/
def Start.recorded (start : Start World) : Start (World × List Command) := fun command world =>
  let (result, after) := start command world.1
  (result, after, world.2 ++ [command])

section Spec
variable (fs : FileSystem) (exe binary : Path) (runtime : RuntimeSettings) (host : Host)

/-- The launch data of a binary is read, the first argument says where the launcher is, and this is
what planning comes to with the runfiles found from there. -/
def PlansTo (args : List Text) (result : Except LaunchError Plan) : Prop :=
  ∃ data argv0 user launcher,
    LaunchData.ofBinary fs binary = .ok data ∧ args = argv0 :: user ∧ argv0 ≠ [] ∧
    launcherPath fs.workingDirectory exe (some argv0) = .ok launcher ∧
    Launcher.plan ⟨data, runtime, Runfiles.discover fs launcher (some fs.workingDirectory) host.env,
      host⟩ (launcher :: user) = result

/-- The ways a run can end: the commands that were started, the result, and the world after them. -/
inductive Ends (start : Start World) (args : List Text) (world : World) :
    List Command → Except LaunchError Int → World → Prop
  | unreadable {cause : LaunchData.Error} (h : LaunchData.ofBinary fs binary = .error cause) :
    Ends start args world [] (.error (.launchData cause)) world
  | unnamed {data : LaunchData} (h : LaunchData.ofBinary fs binary = .ok data)
    (hargs : args = [] ∨ args.head? = some []) :
    Ends start args world [] (.error .missingArgv0) world
  | unplanned {error : LaunchError} (h : PlansTo fs exe binary runtime host args (.error error)) :
    Ends start args world [] (.error error) world
  | failed {plan : Plan} {cause : Failure} {after : World}
    (h : PlansTo fs exe binary runtime host args (.ok plan))
    (hstart : start plan.command world = (.error cause, after)) :
    Ends start args world [plan.command] (.error (.spawn plan.command.program cause)) after
  | exited {plan : Plan} {code : Int} {after : World}
    (h : PlansTo fs exe binary runtime host args (.ok plan))
    (hstart : start plan.command world = (.ok code, after)) :
    Ends start args world [plan.command] (.ok code) after

/-- The runfiles that a run uses come from a manifest that stands at this location. -/
def ReadsManifestAt (args : List Text) (location : Location) : Prop :=
  ∃ launcher manifest, launcherPath fs.workingDirectory exe args.head? = .ok launcher ∧
    (Runfiles.discover fs launcher (some fs.workingDirectory) host.env).manifestFile =
      some manifest ∧ fs.locate manifest = .ok location

end Spec

section Launch
variable {l : Launcher} {start : Start World} {args : List Text} {world after : World}

theorem Launcher.effect_launch_of_refused {error : LaunchError} (h : l.plan args = .error error) :
    (l.launch start args world).effect = ([], .error error, world) := by
  unfold launch
  rw [h]
  rfl

theorem Launcher.effect_launch_of_failed {plan : Plan} {cause : Failure}
    (h : l.plan args = .ok plan) (hstart : start plan.command world = (.error cause, after)) :
    (l.launch start args world).effect =
      ([plan.command], .error (.spawn plan.command.program cause), after) := by
  unfold launch
  simp only [h, hstart]
  rfl

theorem Launcher.effect_launch_of_exited {plan : Plan} {code : Int}
    (h : l.plan args = .ok plan) (hstart : start plan.command world = (.ok code, after)) :
    (l.launch start args world).effect = ([plan.command], .ok code, after) := by
  unfold launch
  simp only [h, hstart]
  rfl

theorem Launcher.recorded_launch (l : Launcher) (start : Start World) (args : List Text)
    (world : World) (commands : List Command) :
    (l.launch start.recorded args (world, commands)).world =
      ((l.launch start args world).world, commands ++ (l.launch start args world).started) := by
  unfold launch
  cases l.plan args with
  | error error => exact Prod.ext rfl (List.append_nil commands).symm
  | ok plan =>
    simp only [Start.recorded]
    rcases start plan.command world with ⟨_ | _, _⟩
    · rfl
    · rfl

end Launch

theorem launcherPath_of_ne_nil (cwd exe : Path) {argv0 : Text} (h : argv0 ≠ []) :
    ∃ launcher, launcherPath cwd exe (some argv0) = .ok launcher := by
  cases argv0 with
  | nil => contradiction
  | cons c rest =>
    unfold launcherPath
    dsimp only
    split
    · exact ⟨_, rfl⟩
    · exact ⟨_, rfl⟩
    · exact ⟨_, rfl⟩

section Run
variable {fs : FileSystem} {exe binary : Path} {runtime : RuntimeSettings} {host : Host}
  {start : Start World} {args : List Text} {world : World}

theorem run_of_unreadable {cause : LaunchData.Error}
    (h : LaunchData.ofBinary fs binary = .error cause) :
    run fs exe binary runtime host start args world =
      .stopped [] (.launchData cause) world := by
  unfold run
  rw [h]

theorem effect_run_of_unnamed {data : LaunchData} (h : LaunchData.ofBinary fs binary = .ok data)
    (hargs : args = [] ∨ args.head? = some []) :
    (run fs exe binary runtime host start args world).effect =
      ([], .error .missingArgv0, world) := by
  have hmissing : launcherPath fs.workingDirectory exe args.head? = .error .missingArgv0 := by
    rcases hargs with rfl | hhead
    · rfl
    · rw [hhead]
      rfl
  simp only [run, h, hmissing]
  rfl

theorem effect_run_of_named {data : LaunchData} {argv0 : Text} {user : List Text} {launcher : Path}
    (h : LaunchData.ofBinary fs binary = .ok data)
    (hlauncher : launcherPath fs.workingDirectory exe (some argv0) = .ok launcher) :
    (run fs exe binary runtime host start (argv0 :: user) world).effect =
      ((Launcher.at fs data runtime host launcher).launch start (launcher :: user)
        world).effect := by
  simp only [run, h, List.head?_cons, hlauncher]
  rfl

theorem PlansTo.effect_run_eq {result : Except LaunchError Plan}
    (h : PlansTo fs exe binary runtime host args result) (start : Start World) (world : World) :
    ∃ (l : Launcher) (words : List Text), l.plan words = result ∧
      (run fs exe binary runtime host start args world).effect =
        (l.launch start words world).effect := by
  obtain ⟨data, argv0, user, launcher, hdata, rfl, -, hlauncher, hplan⟩ := h
  exact ⟨_, launcher :: user, hplan, effect_run_of_named hdata hlauncher⟩

theorem Ends.effect_eq {commands : List Command} {outcome : Except LaunchError Int} {after : World}
    (h : Ends fs exe binary runtime host start args world commands outcome after) :
    (run fs exe binary runtime host start args world).effect = (commands, outcome, after) := by
  cases h with
  | unreadable h =>
    rw [run_of_unreadable h]
    rfl
  | unnamed h hargs => exact effect_run_of_unnamed h hargs
  | unplanned h =>
    obtain ⟨l, words, hplan, hrun⟩ := h.effect_run_eq start world
    exact hrun.trans (Launcher.effect_launch_of_refused hplan)
  | failed h hstart =>
    obtain ⟨l, words, hplan, hrun⟩ := h.effect_run_eq start world
    exact hrun.trans (Launcher.effect_launch_of_failed hplan hstart)
  | exited h hstart =>
    obtain ⟨l, words, hplan, hrun⟩ := h.effect_run_eq start world
    exact hrun.trans (Launcher.effect_launch_of_exited hplan hstart)

/-- Every run ends in one of the ways. -/
theorem exists_ends (fs : FileSystem) (exe binary : Path) (runtime : RuntimeSettings) (host : Host)
    (start : Start World) (args : List Text) (world : World) :
    ∃ commands outcome after,
      Ends fs exe binary runtime host start args world commands outcome after := by
  cases hdata : LaunchData.ofBinary fs binary with
  | error cause => exact ⟨_, _, _, .unreadable hdata⟩
  | ok data =>
    match args with
    | [] => exact ⟨_, _, _, .unnamed hdata (.inl rfl)⟩
    | [] :: user => exact ⟨_, _, _, .unnamed hdata (.inr rfl)⟩
    | (c :: rest) :: user =>
      have hne : c :: rest ≠ [] := List.cons_ne_nil c rest
      obtain ⟨launcher, hlauncher⟩ := launcherPath_of_ne_nil fs.workingDirectory exe hne
      have hplans {result : Except LaunchError Plan}
          (h : (Launcher.at fs data runtime host launcher).plan (launcher :: user) = result) :
          PlansTo fs exe binary runtime host ((c :: rest) :: user) result :=
        ⟨data, c :: rest, user, launcher, hdata, rfl, hne, hlauncher, h⟩
      cases hplan : (Launcher.at fs data runtime host launcher).plan (launcher :: user) with
      | error error => exact ⟨_, _, _, .unplanned (hplans hplan)⟩
      | ok plan =>
        rcases hstart : start plan.command world with ⟨cause | code, after⟩
        · exact ⟨_, _, _, .failed (hplans hplan) hstart⟩
        · exact ⟨_, _, _, .exited (hplans hplan) hstart⟩

theorem ends_iff {commands : List Command} {outcome : Except LaunchError Int} {after : World} :
    Ends fs exe binary runtime host start args world commands outcome after ↔
      (run fs exe binary runtime host start args world).effect = (commands, outcome, after) := by
  refine ⟨Ends.effect_eq, fun heffect => ?_⟩
  obtain ⟨commands', outcome', after', hends⟩ :=
    exists_ends fs exe binary runtime host start args world
  have hsame := heffect.symm.trans hends.effect_eq
  simp only [Prod.mk.injEq] at hsame
  obtain ⟨rfl, rfl, rfl⟩ := hsame
  exact hends

theorem Ends.length_le_one {commands : List Command} {outcome : Except LaunchError Int}
    {after : World} (h : Ends fs exe binary runtime host start args world commands outcome after) :
    commands.length ≤ 1 := by
  cases h <;> simp

/-- The commands that a run says it started are those that were started. -/
theorem recorded_run (fs : FileSystem) (exe binary : Path) (runtime : RuntimeSettings)
    (host : Host) (start : Start World) (args : List Text) (world : World) :
    (run fs exe binary runtime host start.recorded args (world, [])).world =
      ((run fs exe binary runtime host start args world).world,
        (run fs exe binary runtime host start args world).started) := by
  unfold run
  cases LaunchData.ofBinary fs binary with
  | error cause => rfl
  | ok data =>
    dsimp only
    cases launcherPath fs.workingDirectory exe args.head? with
    | error error => rfl
    | ok launcher => exact Launcher.recorded_launch _ start (launcher :: args.tail) world []

end Run

section Images
variable {fs fs' : FileSystem}

namespace Runfiles
variable {exe : Path} {cwd : Option Path} {env : Variables}

theorem discover_of_sameShape (h : fs.SameShape fs')
    (hmanifest : ∀ manifest, (discover fs exe cwd env).manifestFile = some manifest →
      fs'.readText manifest = fs.readText manifest) :
    discover fs' exe cwd env = discover fs exe cwd env := by
  have hdirectory : chooseDirectory fs' exe cwd env = chooseDirectory fs exe cwd env := by
    unfold chooseDirectory
    rw [h.isDirectory_eq]
  have huses (directory manifest : Path) :
      usesManifest fs' directory manifest env = usesManifest fs directory manifest env := by
    unfold usesManifest
    rw [h.isDirectory_eq, h.isFile_eq]
  rw [manifestFile_discover] at hmanifest
  rw [discover, discover, hdirectory, huses]
  split
  · next huse => rw [ofManifest, ofManifest, hmanifest _ (if_pos huse)]
  · rfl

theorem discoveryEvents_of_sameShape (h : fs.SameShape fs')
    (hmanifest : ∀ manifest, (discover fs exe cwd env).manifestFile = some manifest →
      fs'.readText manifest = fs.readText manifest) :
    discoveryEvents fs' exe cwd env = discoveryEvents fs exe cwd env := by
  rw [discoveryEvents, discoveryEvents, discover_of_sameShape h hmanifest]
  cases hfile : (discover fs exe cwd env).manifestFile with
  | none => rfl
  | some manifest => simp only [manifestEvents, hmanifest manifest hfile]

end Runfiles

variable {exe binary binary' : Path} {runtime : RuntimeSettings} {host : Host}
  {start : Start World} {args : List Text} {world : World}

theorem Host.system_of_sameShape (h : fs.SameShape fs') (env : Variables) :
    Host.system fs' env = Host.system fs env := by
  have hfiles : fs'.isFile = fs.isFile := funext h.isFile_eq
  unfold system
  rw [hfiles]

/-- The first entry of the log names the binary; nothing else of it counts but its data. -/
theorem run_of_sameData
    (h : LaunchData.ofBinary fs binary' = LaunchData.ofBinary fs binary) :
    (run fs exe binary' runtime host start args world).effect =
        (run fs exe binary runtime host start args world).effect ∧
      (run fs exe binary' runtime host start args world).events.tail =
        (run fs exe binary runtime host start args world).events.tail := by
  unfold run
  rw [h]
  cases LaunchData.ofBinary fs binary with
  | error cause => exact ⟨rfl, rfl⟩
  | ok data =>
    dsimp only
    cases launcherPath fs.workingDirectory exe args.head? with
    | error error => exact ⟨rfl, rfl⟩
    | ok launcher => exact ⟨rfl, rfl⟩

theorem run_of_sameShape (h : fs.SameShape fs')
    (hdata : LaunchData.ofBinary fs' binary = LaunchData.ofBinary fs binary)
    (hmanifest : ∀ launcher manifest,
      launcherPath fs.workingDirectory exe args.head? = .ok launcher →
      (Runfiles.discover fs launcher (some fs.workingDirectory) host.env).manifestFile =
        some manifest → fs'.readText manifest = fs.readText manifest) :
    run fs' exe binary runtime host start args world =
      run fs exe binary runtime host start args world := by
  unfold run
  rw [hdata, h.workingDirectory]
  cases LaunchData.ofBinary fs binary with
  | error cause => rfl
  | ok data =>
    dsimp only
    cases hlauncher : launcherPath fs.workingDirectory exe args.head? with
    | error error => rfl
    | ok launcher =>
      have hread := hmanifest launcher
      simp only [Launcher.at, h.workingDirectory,
        Runfiles.discover_of_sameShape h (hread · hlauncher),
        Runfiles.discoveryEvents_of_sameShape h (hread · hlauncher)]

theorem readText_put_of_not_readsManifestAt {location : Location} {image image' : Bytes}
    {access access' : Access} (h : fs.FileAt binary location image access)
    (hmanifest : ¬ ReadsManifestAt fs exe host args location) {launcher manifest : Path}
    (hlauncher : launcherPath fs.workingDirectory exe args.head? = .ok launcher)
    (hfile : (Runfiles.discover fs launcher (some fs.workingDirectory) host.env).manifestFile =
      some manifest) :
    (fs.put location (some (.file image' access'))).readText manifest = fs.readText manifest := by
  refine (h.sameShape_put image' access').readText_eq fun place hplace => ?_
  have hne : place ≠ location := by
    rintro rfl
    exact hmanifest ⟨launcher, manifest, hlauncher, hfile, hplace⟩
  rw [FileSystem.node_put, if_neg hne]

/-- Another image with the same data in place of a launcher changes nothing, unless the image is
also the manifest of the runfiles. -/
theorem run_of_replaced {location : Location} {image image' : Bytes} {access access' : Access}
    (h : fs.FileAt binary location image access)
    (hdata : LaunchData.ofBinary (fs.put location (some (.file image' access'))) binary =
      LaunchData.ofBinary fs binary)
    (hmanifest : ¬ ReadsManifestAt fs exe host args location) :
    run (fs.put location (some (.file image' access'))) exe binary runtime host start args world =
      run fs exe binary runtime host start args world := by
  refine run_of_sameShape (h.sameShape_put image' access') hdata ?_
  intro launcher manifest hlauncher hfile
  exact readText_put_of_not_readsManifestAt h hmanifest hlauncher hfile

end Images

/-- A run ends in exactly one of the ways, with one command started at the most. Of a launcher only
its data counts: another file with the same data makes the same run of it, and so does another image
in its place, for any host and also as far as the system answers for files. Only a launcher that is
at the same time the manifest of its runfiles is read for more. -/
theorem run_ends (fs : FileSystem) (exe binary : Path) (runtime : RuntimeSettings) (host : Host)
    (start : Start World) (args : List Text) (world : World) :
    (∀ commands outcome after,
      (run fs exe binary runtime host start args world).effect = (commands, outcome, after) ↔
        Ends fs exe binary runtime host start args world commands outcome after) ∧
    (run fs exe binary runtime host start args world).started.length ≤ 1 ∧
    (run fs exe binary runtime host start.recorded args (world, [])).world =
      ((run fs exe binary runtime host start args world).world,
        (run fs exe binary runtime host start args world).started) ∧
    (∀ binary', LaunchData.ofBinary fs binary' = LaunchData.ofBinary fs binary →
      (run fs exe binary' runtime host start args world).effect =
          (run fs exe binary runtime host start args world).effect ∧
        (run fs exe binary' runtime host start args world).events.tail =
          (run fs exe binary runtime host start args world).events.tail) ∧
    ∀ location image access image' access', fs.FileAt binary location image access →
      let replaced := fs.put location (some (.file image' access'))
      LaunchData.ofBinary replaced binary = LaunchData.ofBinary fs binary →
      ¬ ReadsManifestAt fs exe host args location →
        run replaced exe binary runtime host start args world =
            run fs exe binary runtime host start args world ∧
          ∀ env, Host.system replaced env = Host.system fs env := by
  obtain ⟨commands, outcome, after, hends⟩ :=
    exists_ends fs exe binary runtime host start args world
  have hstarted : (run fs exe binary runtime host start args world).started = commands :=
    congrArg Prod.fst hends.effect_eq
  refine ⟨fun _ _ _ => ends_iff.symm, hstarted ▸ hends.length_le_one,
    recorded_run fs exe binary runtime host start args world, fun _ hdata => run_of_sameData hdata,
    ?_⟩
  intro location image access image' access' hfile replaced hdata hmanifest
  exact ⟨run_of_replaced hfile hdata hmanifest,
    Host.system_of_sameShape (hfile.sameShape_put image' access')⟩

/-- Two launchers with the same data. -/
def twinData : LaunchData :=
  LaunchData.ofList [(LaunchData.variantKey, "Dotnet".toList),
    (LaunchData.runtimeKey, "dotnet".toList), (LaunchData.environmentKey, "A=1".toList)]

def twinImage (front : Bytes) : Bytes := front ++ (twinData.encode.toOption).getD []

def twinTree : FileSystem :=
  let tree := (FileSystem.empty "/w".toList).place "first".toList (.file (twinImage [0x7F]) {})
  tree.place "second".toList (.file (twinImage [0x23, 0x21]) {})

def twinHost : Host := Host.system twinTree fun _ => none

def twinWords : List Text := ["./first".toList, ['x']]

def twinCommand : Command :=
  ⟨"dotnet".toList, [.verbatim "/w/first.dll".toList, .escaped ['x']],
    ⟨[(Variables.runfilesDirectory, "/w/first.runfiles".toList), (['A'], ['1'])]⟩⟩

/-- The world counts the commands that were started in it, and each ends with the same code. -/
def twinStart : Start Nat := fun _ count => (.ok 7, count + 1)

def twinRun (fs : FileSystem) (binary : Path) : Run Nat :=
  run fs "/w/first".toList binary .standard twinHost twinStart twinWords 0

theorem not_readsManifestAt_twin (location : Location) :
    ¬ ReadsManifestAt twinTree "/w/first".toList twinHost twinWords location := by
  rintro ⟨launcher, manifest, hlauncher, hmanifest, -⟩
  obtain rfl : "/w/first".toList = launcher := Except.ok.inj hlauncher
  have hnone : (Runfiles.discover twinTree "/w/first".toList (some twinTree.workingDirectory)
    twinHost.env).manifestFile = none := rfl
  rw [hnone] at hmanifest
  contradiction

/-- The other launcher, and an image put in place of the first, start what the first does. -/
theorem run_ends_twins :
    LaunchData.ofBinary twinTree "second".toList = LaunchData.ofBinary twinTree "first".toList ∧
    twinTree.FileAt "first".toList ["w".toList, "first".toList] (twinImage [0x7F]) {} ∧
    (twinRun twinTree "second".toList).effect = ([twinCommand], .ok 7, 1) ∧
    (twinRun (twinTree.put ["w".toList, "first".toList] (some (.file (twinImage []) {})))
      "first".toList).effect = ([twinCommand], .ok 7, 1) := by
  obtain ⟨hends, -, -, htwin, hreplaced⟩ :=
    run_ends twinTree "/w/first".toList "first".toList .standard twinHost twinStart twinWords 0
  have hdata : LaunchData.ofBinary twinTree "first".toList = .ok twinData := rfl
  have hsecond : LaunchData.ofBinary twinTree "second".toList = .ok twinData := rfl
  have hput : LaunchData.ofBinary
      (twinTree.put ["w".toList, "first".toList] (some (.file (twinImage []) {}))) "first".toList =
        .ok twinData := rfl
  have hfile : twinTree.FileAt "first".toList ["w".toList, "first".toList] (twinImage [0x7F]) {} :=
    ⟨rfl, rfl⟩
  have hplan : PlansTo twinTree "/w/first".toList "first".toList .standard twinHost twinWords
      (.ok ⟨.dotnet, ⟨"dotnet".toList, true⟩, twinCommand⟩) :=
    ⟨twinData, "./first".toList, [['x']], "/w/first".toList, hdata, rfl, by decide, rfl, rfl⟩
  have heffect := (hends [twinCommand] (.ok 7) 1).2 (.exited hplan rfl)
  have hsame := (hreplaced _ _ _ (twinImage []) {} hfile (hput.trans hdata.symm)
    (not_readsManifestAt_twin _)).1
  have hother := hsecond.trans hdata.symm
  refine ⟨hother, hfile, (htwin _ hother).1.trans heffect, ?_⟩
  exact (congrArg Run.effect hsame).trans heffect

end RuntimeLauncher
