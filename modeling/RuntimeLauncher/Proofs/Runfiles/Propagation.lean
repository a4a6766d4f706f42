import Mathlib.Logic.Relation
import Mathlib.Tactic
import RuntimeLauncher.FileSystem.Change
import RuntimeLauncher.Launch.Parts
import RuntimeLauncher.Proofs.FileSystem.WorkingDirectory
import RuntimeLauncher.Proofs.Text.Cuts

/-! A launched process finds the runfiles of its launcher: the variables that are set for it make
its own discovery come to the same end. -/
namespace RuntimeLauncher

namespace Variables

def runfilesNames : List Text := [runfilesDirectory, runfilesManifest, manifestOnly]

theorem nonempty_ne_nil {env : Variables} {name value : Text}
    (h : env.nonempty name = some value) : value ≠ [] := by
  simpa using (Option.filter_eq_some_iff.1 h).2

theorem nonempty_onto (a : Assignments) (env : Variables) (name : Text) :
    (a.onto env).nonempty name = ((a.get? name).or (env name)).filter (· ≠ []) := by
  rw [nonempty, Assignments.onto_apply]

end Variables

theorem Path.isAbsolute_join {base : Path} (h : isAbsolute base = true) (p : Path) :
    isAbsolute (join base p) = true := by
  cases base with
  | nil => exact absurd h (by decide)
  | cons c rest =>
    rw [join]
    split_ifs with hp
    · exact hp
    · exact h
    · exact h

namespace Runfiles

theorem directory_discover (fs : FileSystem) (exe : Path) (cwd : Option Path) (env : Variables) :
    (discover fs exe cwd env).directory = chooseDirectory fs exe cwd env := by
  rw [discover]
  split
  · rw [ofManifest]
    split <;> rfl
  · rfl

theorem manifestFile_discover (fs : FileSystem) (exe : Path) (cwd : Option Path)
    (env : Variables) :
    (discover fs exe cwd env).manifestFile =
      if usesManifest fs (chooseDirectory fs exe cwd env)
          (chooseManifest (chooseDirectory fs exe cwd env) env) env then
        some (chooseManifest (chooseDirectory fs exe cwd env) env)
      else none := by
  rw [discover]
  split
  · rw [ofManifest]
    split <;> rfl
  · rfl

theorem append_suffix_ne_nil (front : Text) : front ++ suffix ≠ [] :=
  List.append_ne_nil_of_right_ne_nil front (by decide)

/-- Only the owner of a manifest that the environment names can be the empty path. -/
theorem chooseDirectory_ne_nil {env : Variables} (h : env.nonempty Variables.runfilesManifest = none)
    (fs : FileSystem) (exe : Path) (cwd : Option Path) : chooseDirectory fs exe cwd env ≠ [] := by
  rw [chooseDirectory, h]
  cases hdirectory : env.nonempty Variables.runfilesDirectory with
  | some directory => exact Variables.nonempty_ne_nil hdirectory
  | none =>
    dsimp only
    split
    · exact append_suffix_ne_nil exe
    · cases hcwd : cwd.bind (throughFirst suffix) with
      | none => exact append_suffix_ne_nil exe
      | some found =>
        obtain ⟨path, -, hpath⟩ := Option.bind_eq_some_iff.1 hcwd
        obtain ⟨front, -, -, rfl⟩ := exists_firstAt hpath
        exact append_suffix_ne_nil front

theorem chooseManifest_ne_nil (directory : Path) (env : Variables) :
    chooseManifest directory env ≠ [] := by
  have hname : manifestName ≠ [] := by decide
  have hjoin : Path.join directory manifestName ≠ [] := by
    rw [Path.join]
    split_ifs <;> simp [hname]
  rw [chooseManifest]
  cases h : env.nonempty Variables.runfilesManifest with
  | some manifest => exact Variables.nonempty_ne_nil h
  | none => exact hjoin

theorem isAbsolute_chooseManifest {directory : Path} {env : Variables}
    (hdirectory : Path.isAbsolute directory = true)
    (hmanifest : ∀ manifest, env.nonempty Variables.runfilesManifest = some manifest →
      Path.isAbsolute manifest = true) :
    Path.isAbsolute (chooseManifest directory env) = true := by
  rw [chooseManifest]
  cases h : env.nonempty Variables.runfilesManifest with
  | some manifest => exact hmanifest manifest h
  | none => exact Path.isAbsolute_join hdirectory manifestName

/-- Two trees that look alike at a directory and at a manifest. -/
structure Agree (fs fs' : FileSystem) (directory manifest : Path) : Prop where
  isDirectory : fs'.isDirectory directory = fs.isDirectory directory
  isFile : fs'.isFile manifest = fs.isFile manifest
  readText : fs'.readText manifest = fs.readText manifest

/-- Discovery depends on the directory and the manifest it chooses, on what is there, and on whether
the manifest is asked for. -/
theorem discover_congr {fs fs' : FileSystem} {exe exe' : Path} {cwd cwd' : Option Path}
    {env env' : Variables}
    (hagree : Agree fs fs' (chooseDirectory fs exe cwd env)
      (chooseManifest (chooseDirectory fs exe cwd env) env))
    (hdirectory : chooseDirectory fs' exe' cwd' env' = chooseDirectory fs exe cwd env)
    (hmanifest : chooseManifest (chooseDirectory fs exe cwd env) env' =
      chooseManifest (chooseDirectory fs exe cwd env) env)
    (honly : env'.nonempty Variables.manifestOnly = env.nonempty Variables.manifestOnly) :
    discover fs' exe' cwd' env' = discover fs exe cwd env := by
  rw [discover, discover, hdirectory, hmanifest, usesManifest, usesManifest, honly,
    hagree.isDirectory, hagree.isFile, ofManifest, ofManifest, hagree.readText]

/-- What the variables of a child say about the runfiles of a launcher that runs in `env`. -/
structure PassedOn (runfiles : Runfiles) (env child : Variables) : Prop where
  directory : child.nonempty Variables.runfilesDirectory =
    (env.nonempty Variables.runfilesDirectory).or ((some runfiles.directory).filter (· ≠ []))
  manifest : child.nonempty Variables.runfilesManifest =
    (env.nonempty Variables.runfilesManifest).or (runfiles.manifestFile.filter (· ≠ []))
  manifestOnly : child.nonempty Variables.manifestOnly = env.nonempty Variables.manifestOnly

section Child
variable {fs : FileSystem} {exe : Path} {cwd : Option Path} {env child : Variables}

/-- The child looks at no file to choose its directory. -/
theorem PassedOn.chooseDirectory_eq (h : PassedOn (discover fs exe cwd env) env child)
    (fs' : FileSystem) (exe' : Path) (cwd' : Option Path) :
    chooseDirectory fs' exe' cwd' child = chooseDirectory fs exe cwd env := by
  have hdirectory := h.directory
  rw [directory_discover] at hdirectory
  cases henv : env.nonempty Variables.runfilesDirectory with
  | some directory =>
    rw [henv, Option.some_or] at hdirectory
    rw [chooseDirectory, chooseDirectory, hdirectory, henv]
  | none =>
    rw [henv, Option.none_or] at hdirectory
    by_cases hfound : chooseDirectory fs exe cwd env = []
    · -- the child reads an empty path as no path, and goes on to the same manifest
      cases hmanifest : env.nonempty Variables.runfilesManifest with
      | none => exact absurd hfound (chooseDirectory_ne_nil hmanifest fs exe cwd)
      | some manifest =>
        have hchild := h.manifest
        rw [hmanifest, Option.some_or] at hchild
        rw [hfound] at hdirectory
        rw [chooseDirectory, chooseDirectory, henv, hmanifest, hchild, hdirectory]
        rfl
    · rw [Option.filter_some, if_pos (decide_eq_true hfound)] at hdirectory
      rw [chooseDirectory, hdirectory]

theorem PassedOn.chooseManifest_eq (h : PassedOn (discover fs exe cwd env) env child) :
    chooseManifest (chooseDirectory fs exe cwd env) child =
      chooseManifest (chooseDirectory fs exe cwd env) env := by
  have hmanifest := h.manifest
  rw [manifestFile_discover] at hmanifest
  cases henv : env.nonempty Variables.runfilesManifest with
  | some manifest => rw [chooseManifest, chooseManifest, hmanifest, henv, Option.some_or]
  | none =>
    rw [henv, Option.none_or] at hmanifest
    split at hmanifest
    · rw [Option.filter_some, if_pos (decide_eq_true (chooseManifest_ne_nil _ _))] at hmanifest
      rw [chooseManifest, hmanifest, Option.getD_some]
    · rw [chooseManifest, chooseManifest, hmanifest, henv, Option.filter_none]

theorem PassedOn.discover_eq (h : PassedOn (discover fs exe cwd env) env child) (exe' : Path)
    (cwd' : Option Path) : discover fs exe' cwd' child = discover fs exe cwd env :=
  discover_congr ⟨rfl, rfl, rfl⟩ (h.chooseDirectory_eq fs exe' cwd') h.chooseManifest_eq
    h.manifestOnly

/-- Absolute paths lead a child that works in another directory to the same runfiles. -/
theorem PassedOn.discover_enter_eq (h : PassedOn (discover fs exe cwd env) env child)
    (hdirectory : Path.isAbsolute (discover fs exe cwd env).directory = true)
    (hmanifest : ∀ manifest, env.nonempty Variables.runfilesManifest = some manifest →
      Path.isAbsolute manifest = true)
    (working : Path) (exe' : Path) (cwd' : Option Path) :
    discover (fs.enter working) exe' cwd' child = discover fs exe cwd env := by
  rw [directory_discover] at hdirectory
  have hchosen := isAbsolute_chooseManifest hdirectory hmanifest
  refine discover_congr ⟨?_, ?_, ?_⟩ (h.chooseDirectory_eq _ exe' cwd') h.chooseManifest_eq
    h.manifestOnly
  · exact fs.isDirectory_enter working hdirectory
  · exact fs.isFile_enter working hchosen
  · exact fs.readText_enter working hchosen

end Child

end Runfiles

namespace Assignments

theorem get?_append (front : List (Text × Text)) {pairs : List (Text × Text)} {name : Text}
    (h : ∀ pair ∈ pairs, pair.1 ≠ name) :
    (⟨front ++ pairs⟩ : Assignments).get? name = (⟨front⟩ : Assignments).get? name := by
  have hnone : pairs.reverse.lookup name = none :=
    List.lookup_eq_none_iff.2 fun pair hpair =>
      bne_iff_ne.2 (h pair (List.mem_reverse.1 hpair)).symm
  rw [get?, get?, List.reverse_append, List.lookup_append, hnone, Option.none_or]

end Assignments

section RunfilesVariables
variable (runfiles : Runfiles) (env : Variables)

theorem get?_runfilesDirectory :
    (⟨runfilesAssignments runfiles env⟩ : Assignments).get? Variables.runfilesDirectory =
      if (env.nonempty Variables.runfilesDirectory).isSome then none
      else some runfiles.directory := by
  have hne : Variables.runfilesDirectory ≠ Variables.runfilesManifest := by decide
  rw [Assignments.get?, runfilesAssignments]
  cases runfiles.manifestFile <;> split_ifs <;> simp [lookup_cons_eq_ite, hne]

theorem get?_runfilesManifest :
    (⟨runfilesAssignments runfiles env⟩ : Assignments).get? Variables.runfilesManifest =
      if (env.nonempty Variables.runfilesManifest).isSome then none
      else runfiles.manifestFile := by
  have hne : Variables.runfilesManifest ≠ Variables.runfilesDirectory := by decide
  rw [Assignments.get?, runfilesAssignments]
  cases runfiles.manifestFile <;> split_ifs <;> simp [lookup_cons_eq_ite, hne]

theorem get?_runfilesAssignments_of_ne {name : Text} (hdirectory : name ≠ Variables.runfilesDirectory)
    (hmanifest : name ≠ Variables.runfilesManifest) :
    (⟨runfilesAssignments runfiles env⟩ : Assignments).get? name = none := by
  rw [Assignments.get?, runfilesAssignments]
  cases runfiles.manifestFile <;> split_ifs <;> simp [lookup_cons_eq_ite, hdirectory, hmanifest]

end RunfilesVariables

theorem nonempty_or_of_missing (env : Variables) (name : Text) (value : Option Text) :
    ((if (env.nonempty name).isSome then none else value).or (env name)).filter (· ≠ []) =
      (env.nonempty name).or (value.filter (· ≠ [])) := by
  cases h : env.nonempty name with
  | some found => exact h
  | none =>
    cases value with
    | some text => rfl
    | none => exact h

/-- Assignments that leave the names of the runfiles variables alone pass the runfiles on. -/
theorem passedOn_onto (runfiles : Runfiles) (env : Variables) {pairs : List (Text × Text)}
    (h : ∀ pair ∈ pairs, pair.1 ∉ Variables.runfilesNames) :
    runfiles.PassedOn env
      ((⟨runfilesAssignments runfiles env ++ pairs⟩ : Assignments).onto env) := by
  have hget {name : Text} (hname : name ∈ Variables.runfilesNames) :=
    Assignments.get?_append (runfilesAssignments runfiles env) fun pair hpair heq =>
      h pair hpair (heq ▸ hname)
  constructor
  · rw [Variables.nonempty_onto, hget (by decide), get?_runfilesDirectory, nonempty_or_of_missing]
  · rw [Variables.nonempty_onto, hget (by decide), get?_runfilesManifest, nonempty_or_of_missing]
  · rw [Variables.nonempty_onto, hget (by decide),
      get?_runfilesAssignments_of_ne _ _ (by decide) (by decide), Option.none_or]
    rfl

theorem childEnvironment_eq_ok_iff {declared : Option Text} {runfiles : Runfiles} {env : Variables}
    {a : Assignments} :
    childEnvironment declared runfiles env = .ok a ↔
      ∃ pairs, Assignments.parse (declared.getD []) = .ok pairs ∧
        a = ⟨runfilesAssignments runfiles env ++ pairs⟩ := by
  rw [childEnvironment]
  cases Assignments.parse (declared.getD []) with
  | error entry => simp
  | ok pairs => simp [eq_comm]

namespace Runfiles

/-- The process that a launcher starts finds the runfiles of the launcher, whatever it was started
as and whichever working directory the search is told of. The tree is the same, and with it the
directory that relative paths are looked up in: for a process that works elsewhere, see
`PassedOn.discover_enter_eq`. -/
theorem discover_childEnvironment {fs : FileSystem} {exe : Path} {cwd : Option Path}
    {env : Variables} {declared : Option Text} {a : Assignments}
    (h : childEnvironment declared (discover fs exe cwd env) env = .ok a)
    (hdeclared : ∀ pairs, Assignments.parse (declared.getD []) = .ok pairs →
      ∀ pair ∈ pairs, pair.1 ∉ Variables.runfilesNames) (exe' : Path) (cwd' : Option Path) :
    discover fs exe' cwd' (a.onto env) = discover fs exe cwd env := by
  obtain ⟨pairs, hparse, rfl⟩ := childEnvironment_eq_ok_iff.1 h
  exact (passedOn_onto _ env (hdeclared pairs hparse)).discover_eq exe' cwd'

/-- A tree with a manifest that belongs to the empty path. -/
def ownerlessTree : FileSystem :=
  (FileSystem.empty "/w".toList).place "_manifest".toList (.file [0x61, 0x20, 0x62] {})

def ownerlessVariables : Variables :=
  .ofList [(Variables.runfilesManifest, "_manifest".toList)]

/-- The directory that is passed on may be empty, which counts as none. -/
theorem discover_childEnvironment_ownerless :
    childEnvironment (some "A=1".toList)
        (discover ownerlessTree "/w/App".toList none ownerlessVariables) ownerlessVariables =
      .ok ⟨[(Variables.runfilesDirectory, []), (['A'], ['1'])]⟩ ∧
    discover ownerlessTree "/w/Other".toList (some "/w".toList)
        (Assignments.onto ⟨[(Variables.runfilesDirectory, []), (['A'], ['1'])]⟩ ownerlessVariables) =
      discover ownerlessTree "/w/App".toList none ownerlessVariables ∧
    discover ownerlessTree "/w/App".toList none ownerlessVariables =
      ⟨[], .manifest "_manifest".toList [(['a'], ['b'])]⟩ :=
  have h : childEnvironment (some "A=1".toList)
      (discover ownerlessTree "/w/App".toList none ownerlessVariables) ownerlessVariables =
        .ok ⟨[(Variables.runfilesDirectory, []), (['A'], ['1'])]⟩ := rfl
  have hdeclared : ∀ pairs, Assignments.parse ((some "A=1".toList).getD []) = .ok pairs →
      ∀ pair ∈ pairs, pair.1 ∉ Variables.runfilesNames := by
    intro pairs hpairs
    obtain rfl : [(['A'], ['1'])] = pairs := Except.ok.inj hpairs
    decide
  ⟨h, discover_childEnvironment h hdeclared _ _, rfl⟩

/-- A launcher in `env` starts a process in `child`, and assigns none of the runfiles variables. -/
def Launches (fs : FileSystem) (exe : Path) (cwd : Option Path) (env child : Variables) : Prop :=
  ∃ declared pairs a, Assignments.parse (declared.getD []) = .ok pairs ∧
    (∀ pair ∈ pairs, pair.1 ∉ Variables.runfilesNames) ∧
    childEnvironment declared (discover fs exe cwd env) env = .ok a ∧ child = a.onto env

theorem Launches.passedOn {fs : FileSystem} {exe : Path} {cwd : Option Path} {env child : Variables}
    (h : Launches fs exe cwd env child) : PassedOn (discover fs exe cwd env) env child := by
  obtain ⟨declared, pairs, a, hparse, hnames, ha, rfl⟩ := h
  obtain ⟨pairs', hparse', rfl⟩ := childEnvironment_eq_ok_iff.1 ha
  obtain rfl := Except.ok.inj (hparse.symm.trans hparse')
  exact passedOn_onto _ env hnames

/-- Launchers that start each other all find the runfiles of the first. -/
theorem discover_of_nested {fs : FileSystem} {exe : Path} {cwd : Option Path}
    {env first last : Variables} (h : Launches fs exe cwd env first)
    (hnested : Relation.ReflTransGen (fun env child => ∃ exe cwd, Launches fs exe cwd env child)
      first last) (exe' : Path) (cwd' : Option Path) :
    discover fs exe' cwd' last = discover fs exe cwd env := by
  induction hnested generalizing exe' cwd' with
  | refl => exact h.passedOn.discover_eq exe' cwd'
  | tail _ hlaunch ih =>
    obtain ⟨exe₁, cwd₁, hlaunch⟩ := hlaunch
    exact (hlaunch.passedOn.discover_eq exe' cwd').trans (ih exe₁ cwd₁)

end Runfiles

end RuntimeLauncher
