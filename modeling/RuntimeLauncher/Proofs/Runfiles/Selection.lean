import RuntimeLauncher.Proofs.FileSystem.Writing
import RuntimeLauncher.Proofs.Runfiles.Propagation

/-! When runfiles are looked up through a manifest: when that is asked for, or when the environment
names a manifest and there is no directory. A manifest that is only found never decides. -/
namespace RuntimeLauncher.Runfiles

variable {fs : FileSystem} {exe : Path} {cwd : Option Path} {env : Variables}

theorem nonempty_manifestOnly_iff :
    (env.nonempty Variables.manifestOnly == some ['1']) = true ↔
      env Variables.manifestOnly = some ['1'] := by
  rw [beq_iff_eq, Variables.nonempty, filter_nonempty_eq_some_iff]
  exact and_iff_left (by decide)

/-- Where there is a file of the name of a manifest, there is a directory that it is in. -/
theorem isDirectory_of_isFile_manifest {directory : Path} (hdirectory : directory ≠ [])
    (h : fs.isFile (Path.join directory manifestName) = true) : fs.isDirectory directory = true := by
  obtain ⟨location, content, access, hfile⟩ := FileSystem.exists_fileAt_of_isFile h
  have hplain : '/' ∉ manifestName := by decide
  exact FileSystem.isDirectory_of_locate_join hdirectory hplain (by decide) hfile.locate

/-- The manifest of the chosen directory does not count, as there would have to be the directory. -/
theorem usesManifest_of_unnamed (h : env.nonempty Variables.runfilesManifest = none) :
    usesManifest fs (chooseDirectory fs exe cwd env)
        (chooseManifest (chooseDirectory fs exe cwd env) env) env =
      (env.nonempty Variables.manifestOnly == some ['1']) := by
  have hne := chooseDirectory_ne_nil h fs exe cwd
  rw [usesManifest, chooseManifest, h, Option.getD_none]
  cases hfile : fs.isFile (Path.join (chooseDirectory fs exe cwd env) manifestName) with
  | false => rw [Bool.and_false, Bool.or_false]
  | true => rw [isDirectory_of_isFile_manifest hne hfile, Bool.not_true, Bool.false_and, Bool.or_false]

theorem isSome_manifestFile_discover :
    (discover fs exe cwd env).manifestFile.isSome =
      usesManifest fs (chooseDirectory fs exe cwd env)
        (chooseManifest (chooseDirectory fs exe cwd env) env) env := by
  rw [manifestFile_discover]
  split_ifs with h
  · rw [h, Option.isSome_some]
  · rw [Bool.not_eq_true] at h
    rw [h, Option.isSome_none]

/-- Lookups go through a manifest when the environment asks for that, or when the manifest that it
names is a file and the chosen directory is none. So where the environment does neither, they go
through the directory, however it was chosen and whatever is in it. -/
theorem manifestFile_discover_iff (fs : FileSystem) (exe : Path) (cwd : Option Path)
    (env : Variables) :
    ((discover fs exe cwd env).manifestFile.isSome = true ↔
      env Variables.manifestOnly = some ['1'] ∨
        ∃ manifest, env Variables.runfilesManifest = some manifest ∧ manifest ≠ [] ∧
          fs.isFile manifest = true ∧
          fs.isDirectory (discover fs exe cwd env).directory = false) ∧
    (env Variables.manifestOnly ≠ some ['1'] →
      (∀ manifest, env Variables.runfilesManifest = some manifest → manifest = []) →
      discover fs exe cwd env = ofDirectory (chooseDirectory fs exe cwd env)) := by
  constructor
  · rw [isSome_manifestFile_discover, directory_discover, ← nonempty_manifestOnly_iff]
    cases hnamed : env.nonempty Variables.runfilesManifest with
    | none =>
      have hunset := filter_nonempty_eq_none_iff.1 hnamed
      rw [usesManifest_of_unnamed hnamed, or_iff_left]
      rintro ⟨manifest, hmanifest, hne, -⟩
      exact hne (hunset manifest hmanifest)
    | some manifest =>
      obtain ⟨hmanifest, hne⟩ := filter_nonempty_eq_some_iff.1 hnamed
      simp [usesManifest, chooseManifest, hnamed, hmanifest, hne, and_comm]
  · intro honly hunset
    have hnamed : env.nonempty Variables.runfilesManifest = none :=
      filter_nonempty_eq_none_iff.2 hunset
    rw [discover, if_neg]
    rwa [usesManifest_of_unnamed hnamed, nonempty_manifestOnly_iff]

/-- A tree with a manifest in a runfiles directory, and one whose directory is not there. -/
def selectionTree : FileSystem :=
  let tree := (FileSystem.empty "/w".toList).place "App.runfiles/MANIFEST".toList (.file [] {})
  tree.place "Gone.runfiles_manifest".toList (.file [] {})

/-- The manifest in the directory counts only when it is asked for, and the other when it is
named. -/
theorem manifestFile_discover_found :
    selectionTree.isFile (Path.join "/w/App.runfiles".toList manifestName) = true ∧
    discover selectionTree "/w/App".toList none (.ofList []) = ofDirectory "/w/App.runfiles".toList ∧
    (discover selectionTree "/w/App".toList none
      (.ofList [(Variables.manifestOnly, ['1'])])).manifestFile.isSome = true ∧
    (discover selectionTree "/w/App".toList none (.ofList [(Variables.runfilesManifest,
      "/w/Gone.runfiles_manifest".toList)])).manifestFile.isSome = true := by
  have hrule (env : Variables) :=
    manifestFile_discover_iff selectionTree "/w/App".toList none env
  refine ⟨rfl, ?_, ?_, ?_⟩
  · exact (hrule _).2 (by decide) (fun _ hunset => by contradiction)
  · exact (hrule _).1.2 (.inl rfl)
  · exact (hrule _).1.2 (.inr ⟨_, rfl, by decide, rfl, rfl⟩)

end RuntimeLauncher.Runfiles
