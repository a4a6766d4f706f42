import RuntimeLauncher.Proofs.Launch.CommandLine
import RuntimeLauncher.Proofs.Launch.Running
import RuntimeLauncher.Proofs.Path.Absolute

/-! The path of a launcher: it is absolute and stands for itself, and so are the places that are
derived from it absolute. -/
namespace RuntimeLauncher

theorem Path.folder_ne_nil {p : Path} {c : Char} (hmem : c ∈ p) (hseparator : isSeparator c = true) :
    folder p ≠ [] := by
  intro hnil
  have hlast : lastName p = p := by
    have happend := folder_append_lastName p
    rwa [hnil, List.nil_append] at happend
  have hplain : c ∈ lastName p → (!isSeparator c) = true := by
    rw [lastName, List.mem_reverse]
    intro htaken
    have hkept := List.mem_takeWhile_imp htaken
    exact hkept
  rw [hlast, hseparator] at hplain
  exact absurd (hplain hmem) (by decide)

/-- The artifact is in the folder of its launcher. -/
theorem isAbsolute_artifactPath {host : Host} (hlong : host.longPath = id) (suffix : ArtifactSuffix)
    (extension : Text) {launcher : Path} (h : Path.isAbsolute launcher = true) :
    Path.isAbsolute (artifactPath host suffix extension launcher) = true := by
  have hne := Path.folder_ne_nil (Path.slash_mem_of_isAbsolute h) (by decide)
  have hfolder : Path.isAbsolute (Path.folder launcher) = true := by
    rwa [← Path.isAbsolute_append hne (Path.lastName launcher), Path.folder_append_lastName]
  have hstem : Path.isAbsolute (Path.stripExtension launcher) = true := by
    rwa [Path.stripExtension, Path.isAbsolute_append hne]
  have hstem_ne : Path.stripExtension launcher ≠ [] :=
    List.append_ne_nil_of_left_ne_nil hne _
  cases suffix with
  | keep => rwa [artifactPath, hlong]
  | append => rwa [artifactPath, hlong, id_eq, Path.withExtension, Path.isAbsolute_append hstem_ne]

theorem Runfiles.isAbsolute_chooseDirectory {fs : FileSystem} {exe cwd : Path} {env : Variables}
    (hexe : Path.isAbsolute exe = true) (hcwd : Path.isAbsolute cwd = true)
    (hdirectory : env.nonempty Variables.runfilesDirectory = none)
    (hmanifest : env.nonempty Variables.runfilesManifest = none) :
    Path.isAbsolute (chooseDirectory fs exe (some cwd) env) = true := by
  have hbesides : Path.isAbsolute (besides exe) = true := by
    have hne : exe ≠ [] := by
      rintro rfl
      contradiction
    rwa [besides, Path.isAbsolute_append hne]
  rw [chooseDirectory, hdirectory, hmanifest]
  dsimp only
  split_ifs
  · exact hbesides
  rw [Option.bind_some]
  cases hfound : throughFirst suffix cwd with
  | none => exact hbesides
  | some found =>
    obtain ⟨front, back, hfirst, rfl⟩ := exists_firstAt hfound
    rwa [Option.getD_some, ← Path.isAbsolute_append (append_suffix_ne_nil front) back, ← hfirst.parts]

/-- A path with a folder is made absolute, and any other stands for the running executable. -/
theorem launcherPath_eq (cwd exe : Path) {argv0 : Text} (h : argv0 ≠ []) :
    Path.HasFolder argv0 ∧ launcherPath cwd exe (some argv0) = .ok (Path.absolute cwd argv0) ∨
      ¬ Path.HasFolder argv0 ∧ launcherPath cwd exe (some argv0) = .ok exe := by
  obtain ⟨c, rest, rfl⟩ := List.exists_cons_of_ne_nil h
  rw [← Path.exists_parent_iff]
  unfold launcherPath
  dsimp only
  rcases Path.parent (c :: rest) with _ | _ | ⟨d, more⟩
  · exact .inr ⟨by simp, rfl⟩
  · exact .inr ⟨by simp, rfl⟩
  · exact .inl ⟨⟨d, more, rfl⟩, rfl⟩

theorem launcherPath_of_isForm (cwd exe : Path) {p root : Path} {names : List Text}
    (h : Path.IsForm p root names) : launcherPath cwd exe (some p) = .ok p := by
  have hne : p ≠ [] := by
    rintro rfl
    exact absurd h.isAbsolute (by decide)
  rcases launcherPath_eq cwd exe hne with ⟨-, hpath⟩ | ⟨hnone, -⟩
  · rw [hpath, h.absolute_eq]
  · exact absurd h.hasFolder hnone

/-- The path of a launcher is absolute, and a launcher that is started by it has the same path. -/
theorem exists_launcherPath {cwd exe : Path} (hcwd : Path.Normalised cwd)
    (hexe : Path.Normalised exe) {argv0 : Text} (h : argv0 ≠ []) :
    ∃ launcher, launcherPath cwd exe (some argv0) = .ok launcher ∧
      Path.isAbsolute launcher = true ∧ launcherPath cwd exe (some launcher) = .ok launcher := by
  rcases launcherPath_eq cwd exe h with ⟨hfolder, hpath⟩ | ⟨-, hpath⟩
  · obtain ⟨root, names, hform⟩ := Path.exists_isForm_absolute hcwd hfolder.steps_ne_nil
    exact ⟨_, hpath, hform.isAbsolute, launcherPath_of_isForm cwd exe hform⟩
  · refine ⟨exe, hpath, hexe.absolute, ?_⟩
    by_cases hroot : exe = ['/']
    · -- the root has no parent, and so stands for the executable, which it is
      rw [hroot]
      rfl
    · obtain ⟨names, hform⟩ := hexe.isForm hroot
      exact launcherPath_of_isForm cwd exe hform

theorem runfilesAssignments_of_unset (runfiles : Runfiles) {env : Variables}
    (h : env.nonempty Variables.runfilesDirectory = none) :
    ∃ more, runfilesAssignments runfiles env =
      (Variables.runfilesDirectory, runfiles.directory) :: more := by
  rw [runfilesAssignments, h, if_neg (by decide), List.singleton_append]
  exact ⟨_, rfl⟩

section Run
variable {World : Type} {fs : FileSystem} {exe binary : Path} {runtime : RuntimeSettings}
  {host : Host} {start : Start World} {args : List Text} {world : World}

theorem exists_plan_of_mem_started {command : Command}
    (h : command ∈ (run fs exe binary runtime host start args world).started) :
    ∃ plan, PlansTo fs exe binary runtime host args (.ok plan) ∧ command = plan.command := by
  obtain ⟨commands, outcome, after, hends⟩ := exists_ends fs exe binary runtime host start args world
  have hstarted : (run fs exe binary runtime host start args world).started = commands :=
    congrArg Prod.fst hends.effect_eq
  rw [hstarted] at h
  cases hends with
  | failed hplans => exact ⟨_, hplans, List.mem_singleton.1 h⟩
  | exited hplans => exact ⟨_, hplans, List.mem_singleton.1 h⟩
  | _ => contradiction

theorem run_congr_argv0 {argv0 argv0' : Text}
    (h : launcherPath fs.workingDirectory exe (some argv0') =
      launcherPath fs.workingDirectory exe (some argv0)) (user : List Text) :
    run fs exe binary runtime host start (argv0' :: user) world =
      run fs exe binary runtime host start (argv0 :: user) world := by
  simp only [run, List.head?_cons, h, List.tail_cons]

end Run

/-- A command has the artifact of a launcher behind the words for the runtime, and assigns the
directory of its runfiles before all else. Both are absolute. -/
structure NamesAbsolutePlaces (l : Launcher) (launcher : Path) (command : Command) : Prop where
  artifact : ∃ (variant : Variant) (after : List Argument),
    l.data.get? LaunchData.variantKey = some variant.name ∧
    command.arguments =
      (l.data.command?.toList ++ l.data.list LaunchData.runtimeArgumentsKey).map .verbatim ++
        .verbatim (artifactPath l.host variant.suffix l.runtime.artifactExtension launcher) ::
          after ∧
    Path.isAbsolute
      (artifactPath l.host variant.suffix l.runtime.artifactExtension launcher) = true
  directory : ∃ more,
    command.environment.pairs = (Variables.runfilesDirectory, l.runfiles.directory) :: more ∧
    Path.isAbsolute l.runfiles.directory = true

theorem namesAbsolutePlaces_of_plan {l : Launcher} {launcher : Path} {user : List Text} {plan : Plan}
    (hlauncher : Path.isAbsolute launcher = true)
    (hdirectory : Path.isAbsolute l.runfiles.directory = true) (hlong : l.host.longPath = id)
    (hunset : l.host.env.nonempty Variables.runfilesDirectory = none)
    (h : l.plan (launcher :: user) = .ok plan) : NamesAbsolutePlaces l launcher plan.command := by
  obtain ⟨prepared, leading, trailing, hprepared, ⟨command, hcommand, rfl⟩, -, rfl⟩ :=
    Launcher.plan_cons_eq_ok_iff.1 h
  obtain rfl := Launcher.commandWord_iff.1 hcommand
  constructor
  · let after : List Argument := (l.data.list LaunchData.assemblyArgumentsKey).map .verbatim ++
      (user.map fun word => .escaped (l.host.escape word)) ++ trailing.map .verbatim
    refine ⟨prepared.variant, after, Launcher.variant_of_prepare hprepared, ?_,
      isAbsolute_artifactPath hlong _ _ hlauncher⟩
    simp only [Launcher.planned, Launcher.argumentsAround, List.map_append, List.map_cons,
      List.append_assoc, List.cons_append, after]
  · obtain ⟨-, declared, -, -, -, henvironment⟩ := Launcher.exists_of_prepare hprepared
    obtain ⟨pairs, -, hpairs⟩ := childEnvironment_eq_ok_iff.1 henvironment
    obtain ⟨more, hmore⟩ := runfilesAssignments_of_unset l.runfiles hunset
    rw [hmore, List.cons_append] at hpairs
    exact ⟨more ++ pairs, congrArg Assignments.pairs hpairs, hdirectory⟩

/-- A launcher has an absolute path, which is also that of a launcher started by this path, and so a
run started by it is the same run. Unless the environment says where the runfiles are, the artifact
and the runfiles that a started command is given are absolute too. -/
theorem launcherPath_fixed {fs : FileSystem} {exe : Path} {argv0 : Text}
    (hcwd : Path.Normalised fs.workingDirectory) (hexe : Path.Normalised exe) (h : argv0 ≠ []) :
    ∃ launcher, launcherPath fs.workingDirectory exe (some argv0) = .ok launcher ∧
      Path.isAbsolute launcher = true ∧
      launcherPath fs.workingDirectory exe (some launcher) = .ok launcher ∧
      ∀ (World : Type) (binary : Path) (runtime : RuntimeSettings) (host : Host)
        (start : Start World) (user : List Text) (world : World),
        run fs exe binary runtime host start (launcher :: user) world =
          run fs exe binary runtime host start (argv0 :: user) world ∧
        (host.longPath = id → host.env.nonempty Variables.runfilesDirectory = none →
          host.env.nonempty Variables.runfilesManifest = none →
          ∀ command ∈ (run fs exe binary runtime host start (argv0 :: user) world).started,
            ∃ data, LaunchData.ofBinary fs binary = .ok data ∧
              NamesAbsolutePlaces (Launcher.at fs data runtime host launcher) launcher command) := by
  obtain ⟨launcher, hlauncher, habsolute, hfixed⟩ := exists_launcherPath hcwd hexe h
  refine ⟨launcher, hlauncher, habsolute, hfixed, ?_⟩
  intro World binary runtime host start user world
  refine ⟨run_congr_argv0 (hfixed.trans hlauncher.symm) user, ?_⟩
  intro hlong hdirectory hmanifest command hcommand
  obtain ⟨plan, hplans, rfl⟩ := exists_plan_of_mem_started hcommand
  obtain ⟨data, argv0', user', launcher', hdata, hargs, -, hlauncher', hplan⟩ := hplans
  obtain ⟨rfl, rfl⟩ := List.cons.inj hargs
  obtain rfl := Except.ok.inj (hlauncher.symm.trans hlauncher')
  have hchosen : Path.isAbsolute (Launcher.at fs data runtime host launcher).runfiles.directory =
      true := by
    rw [Launcher.at, Runfiles.directory_discover]
    exact Runfiles.isAbsolute_chooseDirectory habsolute hcwd.absolute hdirectory hmanifest
  exact ⟨data, hdata, namesAbsolutePlaces_of_plan habsolute hchosen hlong hdirectory hplan⟩

def detourWords : List Text := ["a/.//../first".toList, ['x']]

def detourCommand : Command :=
  ⟨"dotnet".toList, [.verbatim "/w/a/../first.dll".toList, .escaped ['x']],
    ⟨[(Variables.runfilesDirectory, "/w/a/../first.runfiles".toList), (['A'], ['1'])]⟩⟩

/-- A launcher that is found through a folder and out of it again. -/
theorem launcherPath_fixed_detour :
    launcherPath twinTree.workingDirectory "/w/first".toList detourWords.head? =
      .ok "/w/a/../first".toList ∧
    run twinTree "/w/first".toList "first".toList .standard twinHost twinStart
        ["/w/a/../first".toList, ['x']] 0 =
      run twinTree "/w/first".toList "first".toList .standard twinHost twinStart detourWords 0 ∧
    NamesAbsolutePlaces (Launcher.at twinTree twinData .standard twinHost "/w/a/../first".toList)
      "/w/a/../first".toList detourCommand := by
  have hcwd : Path.Normalised twinTree.workingDirectory := by decide
  have hexe : Path.Normalised "/w/first".toList := by decide
  have hne : "a/.//../first".toList ≠ [] := by decide
  obtain ⟨launcher, hlauncher, -, -, hruns⟩ := launcherPath_fixed hcwd hexe hne
  have hpath : launcherPath twinTree.workingDirectory "/w/first".toList detourWords.head? =
      .ok "/w/a/../first".toList := rfl
  obtain rfl := Except.ok.inj (hpath.symm.trans hlauncher)
  obtain ⟨hsame, hplaces⟩ := hruns Nat "first".toList .standard twinHost twinStart [['x']] 0
  have hdata : LaunchData.ofBinary twinTree "first".toList = .ok twinData := rfl
  have hplan : PlansTo twinTree "/w/first".toList "first".toList .standard twinHost detourWords
      (.ok ⟨.dotnet, ⟨"dotnet".toList, true⟩, detourCommand⟩) :=
    ⟨twinData, _, [['x']], "/w/a/../first".toList, hdata, rfl, hne, hpath, rfl⟩
  have hends : Ends twinTree "/w/first".toList "first".toList .standard twinHost twinStart
      detourWords 0 [detourCommand] (.ok 7) 1 := .exited hplan rfl
  have hstarted : (run twinTree "/w/first".toList "first".toList .standard twinHost twinStart
      detourWords 0).started = [detourCommand] := congrArg Prod.fst hends.effect_eq
  obtain ⟨data, hdata', hnames⟩ := hplaces rfl rfl rfl detourCommand
    (List.mem_of_mem_head? (congrArg List.head? hstarted))
  obtain rfl := Except.ok.inj (hdata.symm.trans hdata')
  exact ⟨hpath, hsame, hnames⟩

end RuntimeLauncher
