import RuntimeLauncher.FileSystem.Change
import RuntimeLauncher.Proofs.Path.Components
import RuntimeLauncher.Proofs.Runfiles.Propagation

/-! Runfiles around the working directory: the text of its path up to the first `.runfiles`, and
when this is the shortest of the directories above it that are named as runfiles. -/
namespace RuntimeLauncher.Runfiles

/-- A component that is a name with `.runfiles` at its end. -/
def IsRunfiles : Path.Component → Prop
  | .name text => suffix <:+ text
  | _ => False

instance (c : Path.Component) : Decidable (IsRunfiles c) := by
  unfold IsRunfiles
  split <;> infer_instance

/-- The last component of the path ends in `.runfiles`. -/
def NamedRunfiles (p : Path) : Prop := ∃ c ∈ (Path.components p).getLast?, IsRunfiles c

/-- The shortest path, of a directory and those above it, that is named as runfiles. -/
structure ShortestRunfiles (cwd root : Path) : Prop where
  above : Path.components root <+: Path.components cwd
  named : NamedRunfiles root
  shortest : ∀ other, Path.components other <+: Path.components cwd → NamedRunfiles other →
    Path.components root <+: Path.components other

/-- The first `.runfiles` in the path stands inside a component, with more of it behind. -/
def Interrupted (cwd : Path) : Prop :=
  ∃ front c back, FirstAt suffix cwd front (c :: back) ∧ c ≠ '/'

theorem interrupted_iff {cwd : Path} : Interrupted cwd ↔
    ((throughFirst suffix cwd).bind fun found => (cwd.drop found.length).head?).any (· ≠ '/') := by
  rw [Option.any_eq_true]
  constructor
  · rintro ⟨front, c, back, h, hc⟩
    refine ⟨c, ?_, decide_eq_true hc⟩
    rw [h.throughFirst_eq, Option.bind_some, h.parts, List.drop_left]
    rfl
  · rintro ⟨c, hnext, hc⟩
    obtain ⟨found, hfound, hhead⟩ := Option.bind_eq_some_iff.1 hnext
    obtain ⟨front, back, h, rfl⟩ := exists_firstAt hfound
    rw [h.parts, List.drop_left] at hhead
    obtain ⟨rest, rfl⟩ := List.head?_eq_some_iff.1 hhead
    exact ⟨front, c, rest, h, of_decide_eq_true hc⟩

instance (cwd : Path) : Decidable (Interrupted cwd) := decidable_of_iff _ interrupted_iff.symm

theorem isInfix_of_isRunfiles {p : Path} {c : Path.Component} (h : c ∈ .root :: Path.inner p)
    (hnamed : IsRunfiles c) : suffix <:+: p := by
  cases c with
  | name text =>
    have hinner : .name text ∈ Path.inner p := by simpa using h
    have htext : suffix <:+ text := hnamed
    exact htext.isInfix.trans (Path.isInfix_of_name_mem_inner hinner)
  | _ => exact absurd hnamed id

section FirstMark
variable {cwd : Path} (habsolute : Path.isAbsolute cwd = true)
include habsolute

/-- In front of the first mark there is the folder of a component, and what this component has
before the mark. -/
theorem exists_folder {front back : Text} (h : FirstAt suffix cwd front back) :
    ∃ folder start, front = folder ++ '/' :: start ∧ '/' ∉ start ++ suffix ∧
      2 < (start ++ suffix).length ∧
      Path.components (front ++ suffix) =
        .root :: Path.inner folder ++ [.name (start ++ suffix)] := by
  have hne : front ≠ [] := by
    rintro rfl
    have hdot : Path.isAbsolute (suffix ++ back) = false := rfl
    rw [h.parts, List.nil_append, hdot] at habsolute
    contradiction
  have hfront : Path.isAbsolute front = true := by
    rwa [h.parts, List.append_assoc, Path.isAbsolute_append hne] at habsolute
  have hslash : '/' ∈ front := by
    rw [Path.isAbsolute_iff_prefix] at hfront
    exact hfront.subset List.mem_cons_self
  obtain ⟨folder, start, rfl, hstart⟩ := exists_lastCut hslash
  have hpiece : '/' ∉ start ++ suffix := by
    have hsuffix : '/' ∉ suffix := by decide
    simp [hstart, hsuffix]
  have hlong : 2 < (start ++ suffix).length := by
    have hsuffix : suffix.length = 9 := rfl
    rw [List.length_append]
    omega
  refine ⟨folder, start, rfl, hpiece, hlong, ?_⟩
  have hroot : Path.isAbsolute (folder ++ '/' :: start ++ suffix) = true := by
    rwa [Path.isAbsolute_append hne]
  rw [Path.components_eq_inner hroot, List.append_assoc, List.cons_append,
    Path.inner_append_slash, Path.inner_of_long hpiece hlong, List.cons_append]

/-- A first mark at the end of a component ends the shortest path that is named as runfiles. -/
theorem shortestRunfiles_of_firstAt {front back : Text} (h : FirstAt suffix cwd front back)
    (hback : back = [] ∨ back.head? = some '/') : ShortestRunfiles cwd (front ++ suffix) := by
  obtain ⟨folder, start, hfront, -, -, hcomponents⟩ := exists_folder habsolute h
  have habove : Path.components (front ++ suffix) <+: Path.components cwd := by
    rcases hback with rfl | hslash
    · rw [h.parts, List.append_nil]
    · obtain ⟨rest, rfl⟩ := List.head?_eq_some_iff.1 hslash
      have hne : front ++ suffix ≠ [] := append_suffix_ne_nil front
      rw [h.parts, Path.components_append_slash hne]
      exact List.prefix_append _ _
  refine ⟨habove, ⟨.name (start ++ suffix), ?_, List.suffix_append _ _⟩, ?_⟩
  · rw [hcomponents, List.getLast?_concat]
    rfl
  · rintro other hother ⟨c, hc, hnamed⟩
    rcases List.prefix_or_prefix_of_prefix habove hother with hshorter | hlonger
    · exact hshorter
    rw [hcomponents, List.prefix_concat_iff] at hlonger
    rcases hlonger with hsame | hinside
    · rw [hcomponents, hsame]
    · -- the name of a path further up stands in the folder, before the first mark
      have hfolder := isInfix_of_isRunfiles (hinside.subset (List.mem_of_getLast? hc)) hnamed
      obtain ⟨u, v, huv⟩ := hfolder
      have hearlier : cwd = u ++ suffix ++ (v ++ '/' :: start ++ suffix ++ back) := by
        rw [h.parts, hfront, ← huv]
        simp
      have hfirst := h.first _ _ hearlier
      have hlength := congrArg List.length huv
      rw [hfront] at hfirst
      simp only [List.length_append, List.length_cons] at hfirst hlength
      omega

/-- A first mark inside a component cuts this component short. -/
theorem not_above_of_firstAt {front : Text} {c : Char} {back : Text}
    (h : FirstAt suffix cwd front (c :: back)) (hc : c ≠ '/') :
    ¬ Path.components (front ++ suffix) <+: Path.components cwd := by
  obtain ⟨folder, start, hfront, hpiece, hlong, hcomponents⟩ := exists_folder habsolute h
  obtain ⟨tail, others, hinner⟩ := Path.exists_inner_append hpiece hlong hc back
  have hparts : cwd = folder ++ '/' :: (start ++ suffix ++ c :: back) := by
    rw [h.parts, hfront]
    simp
  have hcwd : Path.components cwd =
      .root :: Path.inner folder ++ .name (start ++ suffix ++ c :: tail) :: others := by
    rw [Path.components_eq_inner habsolute, hparts, Path.inner_append_slash, hinner,
      List.cons_append]
  rw [hcomponents, hcwd, List.prefix_append_right_inj, List.cons_prefix_cons]
  rintro ⟨hname, -⟩
  have hlength := congrArg List.length (Path.Component.name.inj hname)
  simp at hlength

theorem exists_firstAt_of_isRunfiles {c : Path.Component} (h : c ∈ Path.components cwd)
    (hnamed : IsRunfiles c) : ∃ front back, FirstAt suffix cwd front back := by
  rw [Path.components_eq_inner habsolute] at h
  cases hfound : throughFirst suffix cwd with
  | none => exact absurd (isInfix_of_isRunfiles h hnamed) (throughFirst_eq_none_iff.1 hfound)
  | some found =>
    obtain ⟨front, back, hfirst, -⟩ := exists_firstAt hfound
    exact ⟨front, back, hfirst⟩

end FirstMark

theorem directory_discover_of_unset {fs : FileSystem} {exe : Path} {env : Variables}
    (hdirectory : env.nonempty Variables.runfilesDirectory = none)
    (hmanifest : env.nonempty Variables.runfilesManifest = none)
    (hbeside : fs.isDirectory (besides exe) = false) (cwd : Path) :
    (discover fs exe (some cwd) env).directory = (throughFirst suffix cwd).getD (besides exe) := by
  simp [directory_discover, chooseDirectory, hdirectory, hmanifest, hbeside]

/-- Without variables and without a directory beside the executable, the shortest path above the
working directory that is named as runfiles is chosen, and the place beside the executable if there
is none. Only where the first `.runfiles` of the path stands inside a component, the text up to
there is chosen, and this is not above the working directory. -/
theorem discover_above_workingDirectory {fs : FileSystem} {exe cwd : Path} {env : Variables}
    (habsolute : Path.isAbsolute cwd = true)
    (hdirectory : env.nonempty Variables.runfilesDirectory = none)
    (hmanifest : env.nonempty Variables.runfilesManifest = none)
    (hbeside : fs.isDirectory (besides exe) = false) :
    (¬ Interrupted cwd →
      ((∃ c ∈ Path.components cwd, IsRunfiles c) →
        ShortestRunfiles cwd (discover fs exe (some cwd) env).directory) ∧
      ((∀ c ∈ Path.components cwd, ¬ IsRunfiles c) →
        (discover fs exe (some cwd) env).directory = besides exe)) ∧
    ∀ front c back, FirstAt suffix cwd front (c :: back) → c ≠ '/' →
      (discover fs exe (some cwd) env).directory = front ++ suffix ∧
        ¬ Path.components (front ++ suffix) <+: Path.components cwd := by
  rw [directory_discover_of_unset hdirectory hmanifest hbeside]
  refine ⟨fun hwhole => ?_, ?_⟩
  · have hshortest {front back : Text} (h : FirstAt suffix cwd front back) :
        ShortestRunfiles cwd (front ++ suffix) := by
      apply shortestRunfiles_of_firstAt habsolute h
      cases back with
      | nil => exact .inl rfl
      | cons c back =>
        have hc : c = '/' := by
          by_contra hc
          exact hwhole ⟨front, c, back, h, hc⟩
        exact .inr (by rw [hc, List.head?_cons])
    constructor
    · rintro ⟨c, hmem, hnamed⟩
      obtain ⟨front, back, h⟩ := exists_firstAt_of_isRunfiles habsolute hmem hnamed
      rw [h.throughFirst_eq, Option.getD_some]
      exact hshortest h
    · intro hnone
      cases hfound : throughFirst suffix cwd with
      | none => rfl
      | some found =>
        obtain ⟨front, back, h, rfl⟩ := exists_firstAt hfound
        obtain ⟨habove, ⟨c, hlast, hnamed⟩, -⟩ := hshortest h
        have hmem := habove.subset (List.mem_of_getLast? hlast)
        exact absurd hnamed (hnone c hmem)
  · intro front c back h hc
    rw [h.throughFirst_eq, Option.getD_some]
    exact ⟨rfl, not_above_of_firstAt habsolute h hc⟩

/-- The runfiles directory of a launcher that has nothing but a working directory to find it by. -/
def foundFrom (cwd : Path) : Path :=
  (discover (FileSystem.empty "/w".toList) "/w/App".toList (some cwd)
    (.ofList [(Variables.runfilesDirectory, [])])).directory

/-- The outer of two directories, no directory, and a part of one. -/
theorem discover_above_workingDirectory_nested :
    ShortestRunfiles "/w/Other.runfiles/Inner.runfiles/pkg".toList
      (foundFrom "/w/Other.runfiles/Inner.runfiles/pkg".toList) ∧
    foundFrom "/w/pkg".toList = "/w/App.runfiles".toList ∧
    foundFrom "/w/Other.runfiles_old/pkg".toList = "/w/Other.runfiles".toList := by
  have hbeside : (FileSystem.empty "/w".toList).isDirectory (besides "/w/App".toList) = false := rfl
  have hunset : (Variables.ofList [(Variables.runfilesDirectory, [])]).nonempty
      Variables.runfilesDirectory = none := rfl
  have hrule {cwd : Path} (habsolute : Path.isAbsolute cwd = true) :=
    discover_above_workingDirectory habsolute hunset rfl hbeside
  have hinside : FirstAt suffix "/w/Other.runfiles_old/pkg".toList "/w/Other".toList
      "_old/pkg".toList := firstAt_iff.2 (by decide)
  refine ⟨?_, ?_, ?_⟩
  · exact ((hrule rfl).1 (by decide)).1 (by decide)
  · exact ((hrule rfl).1 (by decide)).2 (by decide)
  · exact ((hrule rfl).2 _ _ _ hinside (by decide)).1

/-- No component of `/w/Other.runfiles_old/pkg` ends in `.runfiles`, and yet runfiles are sought in
a directory that is neither above it nor beside the executable. -/
theorem discover_interrupted :
    Path.isAbsolute "/w/Other.runfiles_old/pkg".toList = true ∧
    (FileSystem.empty "/w".toList).isDirectory (besides "/w/App".toList) = false ∧
    (∀ c ∈ Path.components "/w/Other.runfiles_old/pkg".toList, ¬ IsRunfiles c) ∧
    (discover (FileSystem.empty "/w".toList) "/w/App".toList
      (some "/w/Other.runfiles_old/pkg".toList) (.ofList [])).directory =
        "/w/Other.runfiles".toList ∧
    "/w/Other.runfiles".toList ≠ besides "/w/App".toList ∧
    ¬ Path.components "/w/Other.runfiles".toList <+:
      Path.components "/w/Other.runfiles_old/pkg".toList :=
  ⟨rfl, rfl, by decide, rfl, by decide, by decide⟩

end RuntimeLauncher.Runfiles
