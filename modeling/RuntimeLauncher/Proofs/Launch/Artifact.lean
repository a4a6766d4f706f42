import RuntimeLauncher.Launch.Parts
import RuntimeLauncher.Proofs.Launch.Resolution
import RuntimeLauncher.Proofs.Launch.Running
import RuntimeLauncher.Proofs.Path.Offsets

/-! Where the artifact of a launcher is: beside it, under the name that the launcher has without its
extension. When the artifact leads back to the launcher's name, and when it is its own artifact. -/
namespace RuntimeLauncher

theorem RuntimeSettings.Acceptable.bare_extension {s : RuntimeSettings} (h : s.Acceptable) :
    Path.Bare s.artifactExtension :=
  ⟨h.noSlash, h.noBackslash⟩

/-- The path of the artifact, found by offsets into the path of the launcher. There is none if a cut
lies inside a character. -/
def artifactPath? (host : Host) (suffix : ArtifactSuffix) (extension argv0 : Text) : Option Path :=
  let stripped := Path.stripExtension? (host.longPath argv0)
  match suffix with
  | .append => stripped.map (· ++ '.' :: extension)
  | .keep => stripped

theorem artifactPath?_eq (host : Host) (suffix : ArtifactSuffix) (extension argv0 : Text) :
    artifactPath? host suffix extension argv0 =
      some (artifactPath host suffix extension argv0) := by
  cases suffix with
  | append => simp only [artifactPath?, artifactPath, Path.stripExtension?_eq, Option.map_some,
      Path.withExtension]
  | keep => simp only [artifactPath?, artifactPath, Path.stripExtension?_eq]

section Parts
variable {host : Host} {argv0 : Text} {folder name : Path}

theorem artifactPath_keep (h : Path.Splits (host.longPath argv0) folder name) (extension : Text) :
    artifactPath host .keep extension argv0 = folder ++ Path.stem name :=
  h.stripExtension_eq

theorem artifactPath_append (h : Path.Splits (host.longPath argv0) folder name)
    (extension : Text) :
    artifactPath host .append extension argv0 = folder ++ (Path.stem name ++ '.' :: extension) :=
  h.withExtension_eq extension

end Parts

/-- The long path of a launcher is a folder and a name. In the same folder is the artifact, whose
name is the stem of that name, with the artifact extension behind a `.` if it is appended. No name of
an artifact has a separator, and the path is never cut inside a character. -/
theorem artifactPath_beside {given runtime : RuntimeSettings} {source : Text}
    (h : given.validate source = .ok runtime) (host : Host) (argv0 : Text) :
    let extension := runtime.artifactExtension
    ∃ folder name stem, Path.Splits (host.longPath argv0) folder name ∧ Path.StemOf name stem ∧
      artifactPath host .keep extension argv0 = folder ++ stem ∧ Path.Bare stem ∧
      artifactPath host .append extension argv0 = folder ++ (stem ++ '.' :: extension) ∧
      Path.Bare (stem ++ '.' :: extension) ∧
      ∀ suffix, artifactPath? host suffix extension argv0 =
        some (artifactPath host suffix extension argv0) := by
  intro extension
  have hsplits := Path.exists_splits (host.longPath argv0)
  have hextension : Path.Bare extension :=
    (RuntimeSettings.acceptable_of_validate h).bare_extension
  have hstem := Path.bare_stem hsplits.bare
  refine ⟨_, _, _, hsplits, Path.stemOf_stem _, artifactPath_keep hsplits extension, hstem,
    artifactPath_append hsplits extension, ?_, fun suffix => artifactPath?_eq host suffix _ argv0⟩
  exact hstem.append (Path.bare_cons_dot_iff.2 hextension)

/-- A host with one short alias, which stands for a path with characters of more than one byte. -/
def aliasHost : Host :=
  let host := Host.system (FileSystem.empty "/".toList) (Variables.ofList [])
  { host with longPath := fun p =>
      if p = "C:\\GRSSE~1.D\\APP~1".toList then "C:\\größe.d\\日本.1.exe".toList else p }

/-- The folder keeps its `.`, the name loses what stands behind its last one. -/
theorem artifactPath_beside_expanded :
    RuntimeSettings.standard.validate [] = .ok .standard ∧
    (∃ folder name stem,
      Path.Splits "C:\\größe.d\\日本.1.exe".toList folder name ∧ Path.StemOf name stem ∧
      "C:\\größe.d\\日本.1".toList = folder ++ stem ∧
      "C:\\größe.d\\日本.1.dll".toList = folder ++ (stem ++ ".dll".toList)) ∧
    artifactPath? aliasHost .append "dll".toList "C:\\GRSSE~1.D\\APP~1".toList =
      some "C:\\größe.d\\日本.1.dll".toList := by
  have hsettings : RuntimeSettings.standard.validate [] = .ok .standard := rfl
  have hkeep : artifactPath aliasHost .keep "dll".toList "C:\\GRSSE~1.D\\APP~1".toList =
      "C:\\größe.d\\日本.1".toList := by decide
  have happend : artifactPath aliasHost .append "dll".toList "C:\\GRSSE~1.D\\APP~1".toList =
      "C:\\größe.d\\日本.1.dll".toList := by decide
  obtain ⟨folder, name, stem, hsplits, hstem, hkept, -, happended, -, hcuts⟩ :=
    artifactPath_beside hsettings aliasHost "C:\\GRSSE~1.D\\APP~1".toList
  exact ⟨hsettings, ⟨folder, name, stem, hsplits, hstem, hkeep.symm.trans hkept,
    happend.symm.trans happended⟩, (hcuts .append).trans (congrArg some happend)⟩

/-- The artifact of a launcher with a name has the stem of the launcher, and is its own artifact,
exactly if no `.` stands in the artifact extension. -/
theorem artifactPath_artifactPath_iff {given runtime : RuntimeSettings} {source : Text}
    (h : given.validate source = .ok runtime) {host : Host} (hlong : host.longPath = id)
    {launcher folder name : Path} (hlauncher : Path.Splits launcher folder name)
    (hname : name ≠ []) :
    let extension := runtime.artifactExtension
    let artifact := artifactPath host .append extension launcher
    (artifactPath host .append extension artifact = artifact ↔ '.' ∉ extension) ∧
    (Path.stripExtension artifact = Path.stripExtension launcher ↔ '.' ∉ extension) := by
  intro extension artifact
  have hextension : Path.Bare extension :=
    (RuntimeSettings.acceptable_of_validate h).bare_extension
  have hartifact (p : Path) : artifactPath host .append extension p =
      Path.withExtension p extension := by rw [artifactPath, hlong, id_eq]
  have hsplits : Path.Splits artifact folder (Path.stem name ++ '.' :: extension) := by
    change Path.Splits (artifactPath host .append extension launcher) folder _
    rw [hartifact launcher]
    exact hlauncher.splits_withExtension hextension
  have hstem : Path.stem (Path.stem name ++ '.' :: extension) = Path.stem name ↔
      '.' ∉ extension := Path.stem_append_cons_iff (Path.stem_ne_nil hname)
  constructor
  · rw [hartifact artifact, hsplits.withExtension_eq, hsplits.parts, List.append_cancel_left_eq,
      List.append_cancel_right_eq, hstem]
  · rw [hsplits.stripExtension_eq, hlauncher.stripExtension_eq, List.append_cancel_left_eq, hstem]

/-- The extension of a launcher in a folder with a `.` gives way to `dll`, which stays. -/
theorem artifactPath_artifactPath_replaced :
    let extension := RuntimeSettings.standard.artifactExtension
    RuntimeSettings.standard.validate [] = .ok .standard ∧
    artifactPath twinHost .append extension "/w.d/App.1.exe".toList = "/w.d/App.1.dll".toList ∧
    artifactPath twinHost .append extension "/w.d/App.1.dll".toList = "/w.d/App.1.dll".toList ∧
    Path.stripExtension "/w.d/App.1.dll".toList = Path.stripExtension "/w.d/App.1.exe".toList := by
  intro extension
  have hsettings : RuntimeSettings.standard.validate [] = .ok .standard := rfl
  have hlong : twinHost.longPath = id := rfl
  have hlauncher : Path.Splits "/w.d/App.1.exe".toList "/w.d/".toList "App.1.exe".toList :=
    ⟨rfl, .inr ⟨"/w.d".toList, .inl rfl⟩, by decide, by decide⟩
  have hartifact : artifactPath twinHost .append extension "/w.d/App.1.exe".toList =
      "/w.d/App.1.dll".toList := by decide
  have hrule := artifactPath_artifactPath_iff hsettings hlong hlauncher (by decide)
  dsimp only at hrule
  rw [hartifact] at hrule
  have hdotless : '.' ∉ extension := by decide
  exact ⟨hsettings, hartifact, hrule.1.2 hdotless, hrule.2.2 hdotless⟩

/-- An extension with a `.` inside is accepted. The artifact then has another artifact, and another
stem than the launcher. -/
theorem artifactPath_artifactPath_dotted :
    let runtime : RuntimeSettings := ⟨"dotnet".toList, "dotnet".toList, "tar.gz".toList⟩
    runtime.validate [] = .ok runtime ∧
    artifactPath twinHost .append runtime.artifactExtension "/w/App".toList =
      "/w/App.tar.gz".toList ∧
    artifactPath twinHost .append runtime.artifactExtension "/w/App.tar.gz".toList =
      "/w/App.tar.tar.gz".toList ∧
    Path.stripExtension "/w/App".toList = "/w/App".toList ∧
    Path.stripExtension "/w/App.tar.gz".toList = "/w/App.tar".toList :=
  ⟨by decide, by decide, by decide, by decide, by decide⟩

end RuntimeLauncher
