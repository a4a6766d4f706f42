import RuntimeLauncher.FileSystem.Change
import RuntimeLauncher.Proofs.Path.Components
import RuntimeLauncher.Proofs.Runfiles.Manifests
import RuntimeLauncher.Runfiles.Basic

/-! Where relative paths lead: through the last line for them in a manifest, or to a place under the
runfiles directory. -/
namespace RuntimeLauncher.Runfiles

/-- The name under which a path is looked up: what follows `../`, or else what follows `external/`,
or else the path. -/
inductive LogicalName : Text → Text → Prop where
  | above {rest : Text} : LogicalName ("../".toList ++ rest) rest
  | external {rest : Text} : LogicalName ("external/".toList ++ rest) rest
  | itself {path : Text} : ¬ "../".toList <+: path → ¬ "external/".toList <+: path →
    LogicalName path path

theorem logicalPath_above (rest : Text) : logicalPath ("../".toList ++ rest) = rest := by
  rw [logicalPath, stripStart_eq_some_iff.2 rfl]

theorem logicalPath_external (rest : Text) : logicalPath ("external/".toList ++ rest) = rest := by
  have hnone : stripStart "../".toList ("external/".toList ++ rest) = none := rfl
  rw [logicalPath, hnone, stripStart_eq_some_iff.2 rfl]
  rfl

theorem logicalPath_itself {path : Text} (habove : ¬ "../".toList <+: path)
    (hexternal : ¬ "external/".toList <+: path) : logicalPath path = path := by
  rw [logicalPath, stripStart_eq_none_iff.2 habove, stripStart_eq_none_iff.2 hexternal,
    Option.getD_none]

theorem logicalPath_eq_iff {path name : Text} :
    logicalPath path = name ↔ LogicalName path name := by
  constructor
  · rintro rfl
    by_cases habove : "../".toList <+: path
    · obtain ⟨rest, rfl⟩ := habove
      rw [logicalPath_above]
      exact .above
    by_cases hexternal : "external/".toList <+: path
    · obtain ⟨rest, rfl⟩ := hexternal
      rw [logicalPath_external]
      exact .external
    · rw [logicalPath_itself habove hexternal]
      exact .itself habove hexternal
  · intro h
    cases h with
    | above => exact logicalPath_above name
    | external => exact logicalPath_external name
    | itself habove hexternal => exact logicalPath_itself habove hexternal

section Relative
variable {path : Text} (hrelative : Path.isAbsolute path = false)
  (hwindows : Path.isWindowsAbsolute path = false)
include hrelative hwindows

theorem location?_ofDirectory (directory : Path) :
    (ofDirectory directory).location? path = some (Path.join directory (logicalPath path)) := by
  simp [location?, ofDirectory, hrelative, hwindows]

theorem location?_ofManifest {fs : FileSystem} {manifest : Path} {text : Text}
    (hread : fs.readText manifest = .ok text) (directory : Path) :
    (ofManifest fs directory manifest).location? path =
      (Manifest.parse text).find? (logicalPath path) := by
  simp [location?, ofManifest, hread, hrelative, hwindows]

/-- Paths that are looked up under one name lead to one place. -/
theorem location?_congr {path' : Text} (hrelative' : Path.isAbsolute path' = false)
    (hwindows' : Path.isWindowsAbsolute path' = false) (h : logicalPath path' = logicalPath path)
    (runfiles : Runfiles) : runfiles.location? path' = runfiles.location? path := by
  simp [location?, hrelative, hwindows, hrelative', hwindows', h]

end Relative

/-- A relative path whose first name is taken away is absolute if a second slash follows this
name. -/
theorem isAbsolute_logicalPath_iff {path : Text} (hrelative : Path.isAbsolute path = false) :
    Path.isAbsolute (logicalPath path) = true ↔
      "..//".toList <+: path ∨ "external//".toList <+: path := by
  have habove : "..//".toList = "../".toList ++ ['/'] := rfl
  have hexternal : "external//".toList = "external/".toList ++ ['/'] := rfl
  have hlogical : LogicalName path (logicalPath path) := logicalPath_eq_iff.1 rfl
  generalize logicalPath path = name at hlogical ⊢
  rw [Path.isAbsolute_iff_prefix]
  cases hlogical with
  | above =>
    have hother : ¬ "external//".toList <+: "../".toList ++ name := fun hprefix =>
      absurd (List.cons_prefix_cons.1 hprefix).1 (by decide)
    rw [habove, List.prefix_append_right_inj, or_iff_left hother]
  | external =>
    have hother : ¬ "..//".toList <+: "external/".toList ++ name := fun hprefix =>
      absurd (List.cons_prefix_cons.1 hprefix).1 (by decide)
    rw [hexternal, List.prefix_append_right_inj, or_iff_right hother]
  | itself hnotAbove hnotExternal =>
    rw [← Path.isAbsolute_iff_prefix, hrelative]
    refine iff_of_false (by simp) ?_
    intro hstart
    cases hstart with
    | inl habove =>
      apply hnotAbove
      exact (List.prefix_append "../".toList ['/']).trans habove
    | inr hexternal =>
      apply hnotExternal
      exact (List.prefix_append "external/".toList ['/']).trans hexternal

/-- A relative path has one logical name. In a manifest the last line for this name says where the
path leads, and nowhere if its target is empty; in a directory the path leads to the place that
the name has there. So the path itself and the paths `../` and `external/` before it lead to one
place. -/
theorem location_of_relative {path : Text} (hrelative : Path.isAbsolute path = false)
    (hwindows : Path.isWindowsAbsolute path = false) :
    (∃ name, LogicalName path name ∧
      (∀ fs directory manifest text, FileSystem.readText fs manifest = .ok text →
        (∀ target, Manifest.LastLine text name target →
          (ofManifest fs directory manifest).location? path =
            if target = [] then none else some target) ∧
        ((∀ target, ¬ Manifest.LastLine text name target) →
          (ofManifest fs directory manifest).location? path = none)) ∧
      ∀ directory, (ofDirectory directory).location? path = some (Path.join directory name)) ∧
    (¬ "../".toList <+: path → ¬ "external/".toList <+: path → ∀ runfiles : Runfiles,
      runfiles.location? ("../".toList ++ path) = runfiles.location? path ∧
      runfiles.location? ("external/".toList ++ path) = runfiles.location? path) := by
  refine ⟨⟨logicalPath path, logicalPath_eq_iff.1 rfl, ?_, ?_⟩, ?_⟩
  · intro fs directory manifest text hread
    have hlocation := location?_ofManifest hrelative hwindows hread directory
    constructor
    · intro target htarget
      rw [hlocation, Manifest.find?_parse_of_lastLine htarget]
    · intro hnone
      rw [hlocation, Manifest.find?_parse_of_no_line hnone]
  · exact location?_ofDirectory hrelative hwindows
  · intro habove hexternal runfiles
    have hself := logicalPath_itself habove hexternal
    constructor
    · apply location?_congr hrelative hwindows rfl rfl
      rw [logicalPath_above, hself]
    · apply location?_congr hrelative hwindows rfl rfl
      rw [logicalPath_external, hself]

/-- A manifest with two lines for each name. One of the later lines has a target with a space in it,
and the other an empty one. -/
def manifestText : Text := "a/b /old\nc /c\na/b /new dir\r\nc ".toList

def manifestTree : FileSystem :=
  (FileSystem.empty "/w".toList).place "MANIFEST".toList (.file (Utf8.encode manifestText) {})

/-- The later line counts, and an empty target hides the line before it. -/
theorem location_of_relative_hidden :
    (ofManifest manifestTree "/w".toList "MANIFEST".toList).location? "external/a/b".toList =
      some "/new dir".toList ∧
    (ofManifest manifestTree "/w".toList "MANIFEST".toList).location? "../c".toList = none ∧
    (ofDirectory "/w".toList).location? "../c".toList = some "/w/c".toList := by
  have hread : manifestTree.readText "MANIFEST".toList = .ok manifestText := rfl
  have hfull : Manifest.LastLine manifestText "a/b".toList "/new dir".toList :=
    Manifest.lastPair_parse_iff.1
      ⟨[("a/b".toList, "/old".toList), (['c'], "/c".toList)], [(['c'], [])], rfl, by decide⟩
  have hempty : Manifest.LastLine manifestText ['c'] [] :=
    Manifest.lastPair_parse_iff.1 ⟨_ :: _ :: [_], [], rfl, by decide⟩
  have hrelative : Path.isAbsolute "external/a/b".toList = false := rfl
  have hrelative' : Path.isAbsolute "../c".toList = false := rfl
  obtain ⟨⟨name, hname, hmanifest, -⟩, -⟩ := location_of_relative hrelative rfl
  obtain rfl : "a/b".toList = name := logicalPath_eq_iff.2 hname
  obtain ⟨⟨name, hname', hmanifest', hdirectory⟩, -⟩ := location_of_relative hrelative' rfl
  obtain rfl : "c".toList = name := logicalPath_eq_iff.2 hname'
  refine ⟨?_, ?_, hdirectory _⟩
  · exact (hmanifest _ _ _ _ hread).1 _ hfull
  · exact (hmanifest' _ _ _ _ hread).1 _ hempty

/-- A path leads to a place under the runfiles directory, except that behind `../` or `external/` a
second slash makes it lead to an absolute path, whatever the directory is. -/
theorem location_under_directory {directory path : Path} (hdirectory : directory ≠ [])
    (hrelative : Path.isAbsolute path = false) (hwindows : Path.isWindowsAbsolute path = false) :
    ∃ found, (ofDirectory directory).location? path = some found ∧
      (¬ "..//".toList <+: path → ¬ "external//".toList <+: path →
        Path.components directory <+: Path.components found) ∧
      ("..//".toList <+: path ∨ "external//".toList <+: path →
        LogicalName path found ∧ Path.isAbsolute found = true) := by
  have hlogical := isAbsolute_logicalPath_iff hrelative
  refine ⟨_, location?_ofDirectory hrelative hwindows directory, ?_, ?_⟩
  · intro habove hexternal
    have hinside : Path.isAbsolute (logicalPath path) = false := by
      rw [← Bool.not_eq_true, hlogical, not_or]
      exact ⟨habove, hexternal⟩
    rw [Path.components_join hdirectory hinside]
    exact List.prefix_append _ _
  · intro hslash
    have houtside := hlogical.2 hslash
    have hjoin : Path.join directory (logicalPath path) = logicalPath path := if_pos houtside
    rw [hjoin]
    exact ⟨logicalPath_eq_iff.1 rfl, houtside⟩

theorem location_under_directory_external :
    (∃ found, (ofDirectory "/work/App.runfiles".toList).location? "external/sdk/dotnet".toList =
        some found ∧
      Path.components "/work/App.runfiles".toList <+: Path.components found) ∧
    ∃ found, (ofDirectory "/work/App.runfiles".toList).location? "external//bin/sh".toList =
        some found ∧ LogicalName "external//bin/sh".toList found := by
  have hdirectory : "/work/App.runfiles".toList ≠ [] := by decide
  have hrelative : Path.isAbsolute "external/sdk/dotnet".toList = false := rfl
  have hrelative' : Path.isAbsolute "external//bin/sh".toList = false := rfl
  obtain ⟨found, hfound, hinside, -⟩ := location_under_directory hdirectory hrelative rfl
  obtain ⟨found', hfound', -, houtside⟩ := location_under_directory hdirectory hrelative' rfl
  exact ⟨⟨found, hfound, hinside (by decide) (by decide)⟩,
    found', hfound', (houtside (.inr (by decide))).1⟩

/-- The path `..//bin/sh` is relative, and yet it leads out of the runfiles directory. -/
theorem location_doubled_slash :
    Path.isAbsolute "..//bin/sh".toList = false ∧
    Path.isWindowsAbsolute "..//bin/sh".toList = false ∧
    (ofDirectory "/work/App.runfiles".toList).location? "..//bin/sh".toList =
      some "/bin/sh".toList ∧
    ¬ Path.components "/work/App.runfiles".toList <+: Path.components "/bin/sh".toList :=
  ⟨rfl, rfl, rfl, by decide⟩

end RuntimeLauncher.Runfiles
