import Mathlib.Tactic
import RuntimeLauncher.FileSystem.Change
import RuntimeLauncher.Proofs.FileSystem.Folders
import RuntimeLauncher.Proofs.Steps

/-! What writing to a file changes: the file that a path leads to, and never where a path leads. -/
namespace RuntimeLauncher.FileSystem

/-- A path leads to a file. -/
structure FileAt (fs : FileSystem) (p : Path) (location : Location) (content : Bytes)
    (access : Access) : Prop where
  locate : fs.locate p = .ok location
  node : fs.node location = some (.file content access)

/-- Two paths lead to one place. -/
def SamePlace (fs : FileSystem) (p q : Path) : Prop :=
  ∃ location, fs.locate p = .ok location ∧ fs.locate q = .ok location

/-- A path leads to a file that may be written, or to a place where there is nothing yet. -/
structure CanWrite (fs : FileSystem) (p : Path) (goal : Location) : Prop where
  locate : fs.locateForWriting p = .ok goal
  node : fs.node goal = none ∨
    ∃ content access, fs.node goal = some (.file content access) ∧ access.writable = true

/-- Two trees with the same directories and links. Their files may differ. -/
structure SameWays (fs fs' : FileSystem) : Prop where
  workingDirectory : fs'.workingDirectory = fs.workingDirectory
  directory : ∀ l, fs'.node l = some .directory ↔ fs.node l = some .directory
  link : ∀ l target, fs'.node l = some (.link target) ↔ fs.node l = some (.link target)

@[simp] theorem put_self {fs : FileSystem} {location : Location} {node : Option Node}
    (h : fs.node location = node) : fs.put location node = fs := by
  unfold put
  congr 1
  funext l
  split_ifs with hl
  · rw [hl, h]
  · rfl

@[simp] theorem put_put (fs : FileSystem) (location : Location) (first last : Option Node) :
    (fs.put location first).put location last = fs.put location last := by
  unfold put
  congr 1
  funext l
  dsimp only
  split_ifs <;> rfl

section Ways
variable {fs fs' : FileSystem}

theorem SameWays.symm (h : SameWays fs fs') : SameWays fs' fs :=
  ⟨h.workingDirectory.symm, fun l => (h.directory l).symm, fun l target => (h.link l target).symm⟩

theorem SameWays.walk_eq_ok (h : SameWays fs fs')
    {expand expand' : Location → List Text → Except Failure Location}
    (hexpand : ∀ here names location,
      expand here names = .ok location → expand' here names = .ok location)
    {here location : Location} {names : List Text}
    (hwalk : fs.walk expand here names = .ok location) :
    fs'.walk expand' here names = .ok location := by
  induction names generalizing here with
  | nil => exact hwalk
  | cons name rest ih =>
    -- only a directory leads on
    have hhere := node_of_walk_cons hwalk
    have hhere' := (h.directory here).2 hhere
    simp only [walk, hhere] at hwalk
    simp only [walk, hhere']
    split_ifs at hwalk ⊢ with hcurrent hparent hlong
    · exact ih hwalk
    · exact ih hwalk
    · by_cases hlink : ∃ target, fs.node (here ++ [name]) = some (.link target)
      · obtain ⟨target, htarget⟩ := hlink
        simp only [htarget] at hwalk
        simp only [(h.link _ _).2 htarget]
        exact hexpand _ _ _ hwalk
      · have hlink' : ¬ ∃ target, fs'.node (here ++ [name]) = some (.link target) := by
          rintro ⟨target, htarget⟩
          exact hlink ⟨target, (h.link _ _).1 htarget⟩
        split at hwalk
        · next target htarget => exact absurd ⟨target, htarget⟩ hlink
        · split
          · next target htarget => exact absurd ⟨target, htarget⟩ hlink'
          · exact ih hwalk

theorem SameWays.follow_eq_ok (h : SameWays fs fs') {links : Nat} {here location : Location}
    {names : List Text} (hfollow : fs.follow links here names = .ok location) :
    fs'.follow links here names = .ok location := by
  induction links generalizing here names location with
  | zero =>
    rw [follow] at hfollow ⊢
    exact h.walk_eq_ok (fun _ _ _ hexpand => hexpand) hfollow
  | succ links ih =>
    rw [follow] at hfollow ⊢
    exact h.walk_eq_ok (fun _ _ _ hexpand => ih hexpand) hfollow

/-- Where a path leads depends on directories and links only. -/
theorem SameWays.locate_eq_ok_iff (h : SameWays fs fs') {p : Path} {location : Location} :
    fs'.locate p = .ok location ↔ fs.locate p = .ok location := by
  unfold locate
  rw [h.workingDirectory]
  split_ifs
  · rfl
  · rfl
  · rfl
  · exact ⟨h.symm.follow_eq_ok, h.follow_eq_ok⟩

end Ways

/-- Writing a file where one was, or where there was nothing, leaves all directories and links. -/
theorem sameWays_put {fs : FileSystem} {location : Location}
    (h : fs.node location = none ∨ ∃ content access, fs.node location = some (.file content access))
    (content : Bytes) (access : Access) :
    SameWays fs (fs.put location (some (.file content access))) := by
  refine ⟨rfl, fun l => ?_, fun l target => ?_⟩
  all_goals
    rw [node_put]
    split_ifs with hl
    · subst hl
      rcases h with hnone | ⟨old, oldAccess, hfile⟩
      · simp [hnone]
      · simp [hfile]
    · rfl

theorem FileAt.sameWays_put {fs : FileSystem} {p : Path} {location : Location} {old : Bytes}
    {access : Access} (h : fs.FileAt p location old access) (content : Bytes) (access' : Access) :
    SameWays fs (fs.put location (some (.file content access'))) :=
  FileSystem.sameWays_put (.inr ⟨old, access, h.node⟩) content access'

/-- A path to a file still leads there when the file has been written. -/
theorem FileAt.put {fs : FileSystem} {p : Path} {location : Location} {old : Bytes}
    {access : Access} (h : fs.FileAt p location old access) (content : Bytes) (access' : Access) :
    (fs.put location (some (.file content access'))).FileAt p location content access' :=
  ⟨(h.sameWays_put content access').locate_eq_ok_iff.2 h.locate, by rw [node_put, if_pos rfl]⟩

theorem FileAt.ne_nil {fs : FileSystem} {p : Path} {location : Location}
    {content : Bytes} {access : Access} (h : fs.FileAt p location content access) : p ≠ [] := by
  rintro rfl
  have hlocate : Except.error Failure.notFound = Except.ok location := h.locate
  contradiction

theorem exists_fileAt_of_isFile {fs : FileSystem} {p : Path} (h : fs.isFile p = true) :
    ∃ location content access, fs.FileAt p location content access := by
  unfold isFile node? at h
  cases hlocate : fs.locate p with
  | error failure =>
    rw [hlocate] at h
    contradiction
  | ok location =>
    rw [hlocate] at h
    dsimp only at h
    split at h
    · next content access hnode => exact ⟨location, content, access, hlocate, hnode⟩
    · contradiction

theorem FileAt.unique {fs : FileSystem} {p : Path} {location location' : Location}
    {content content' : Bytes} {access access' : Access} (h : fs.FileAt p location content access)
    (h' : fs.FileAt p location' content' access') :
    location = location' ∧ content = content' ∧ access = access' := by
  obtain rfl := Except.ok.inj (h.locate.symm.trans h'.locate)
  have hnode := Option.some.inj (h.node.symm.trans h'.node)
  exact ⟨rfl, Node.file.inj hnode⟩

theorem FileAt.read_eq {fs : FileSystem} {p : Path} {location : Location} {content : Bytes}
    {access : Access} (h : fs.FileAt p location content access) (hreadable : access.readable = true) :
    fs.read p = .ok content := by
  simp only [read, h.locate, ok_bind, contentAt, h.node, hreadable, if_true]

theorem FileAt.readText_eq {fs : FileSystem} {p : Path} {location : Location} {t : Text}
    {access : Access} (h : fs.FileAt p location (Utf8.encode t) access)
    (hreadable : access.readable = true) : fs.readText p = .ok t := by
  unfold readText
  rw [h.read_eq hreadable, ok_bind, Utf8.decode_encode]

theorem node?_eq_none_iff {fs : FileSystem} {p : Path} :
    fs.node? p = none ↔ ∀ location, fs.locate p = .ok location → fs.node location = none := by
  unfold node?
  cases fs.locate p with
  | error failure => simp
  | ok location => simp

/-- Appending succeeds on files that may be written, and changes no other place. -/
theorem append_eq_ok_iff {fs files : FileSystem} {p : Path} {bytes : Bytes} :
    fs.append p bytes = .ok files ↔ ∃ location content access,
      fs.FileAt p location content access ∧ access.writable = true ∧
        files = fs.put location (some (.file (content ++ bytes) access)) := by
  unfold append
  constructor
  · intro happend
    obtain ⟨location, hlocate, hwrite⟩ := bind_eq_ok_iff.1 happend
    split at hwrite
    · contradiction
    · contradiction
    · contradiction
    · next content access hnode =>
      split_ifs at hwrite with hwritable
      exact ⟨location, content, access, ⟨hlocate, hnode⟩, hwritable, (Except.ok.inj hwrite).symm⟩
  · rintro ⟨location, content, access, hfile, hwritable, rfl⟩
    simp only [hfile.locate, ok_bind, hfile.node, hwritable, if_true]

theorem FileAt.append_of_readOnly {fs : FileSystem} {p : Path} {location : Location}
    {content : Bytes} {access : Access} (h : fs.FileAt p location content access)
    (hreadOnly : access.writable = false) (bytes : Bytes) :
    fs.append p bytes = .error .permissionDenied := by
  simp [append, h.locate, h.node, hreadOnly]

theorem append_eq_error_of_missing {fs : FileSystem} {p : Path} (h : fs.node? p = none)
    (bytes : Bytes) : ∃ failure, fs.append p bytes = .error failure := by
  cases happend : fs.append p bytes with
  | error failure => exact ⟨failure, rfl⟩
  | ok files =>
    obtain ⟨location, content, access, hfile, -, -⟩ := append_eq_ok_iff.1 happend
    have hnone := node?_eq_none_iff.1 h location hfile.locate
    rw [hfile.node] at hnone
    contradiction

theorem locate_of_locateForWriting {fs : FileSystem} {p : Path} {goal : Location}
    (h : fs.locateForWriting p = .ok goal) : fs.locate p = .ok goal := by
  unfold locateForWriting at h
  split_ifs at h
  · dsimp only at h
    split at h <;> contradiction
  · exact h

theorem CanWrite.node_eq {fs : FileSystem} {p : Path} {goal : Location} (h : fs.CanWrite p goal) :
    fs.node goal = none ∨ ∃ content access, fs.node goal = some (.file content access) := by
  rcases h.node with hnone | ⟨content, access, hfile, -⟩
  · exact .inl hnone
  · exact .inr ⟨content, access, hfile⟩

theorem CanWrite.writable {fs : FileSystem} {p : Path} {goal : Location} (h : fs.CanWrite p goal)
    {content : Bytes} {access : Access} (hnode : fs.node goal = some (.file content access)) :
    access.writable = true := by
  rcases h.node with hnone | ⟨content', access', hfile, hwritable⟩
  · rw [hnode] at hnone
    contradiction
  · have heq := Option.some.inj (hnode.symm.trans hfile)
    exact (Node.file.inj heq).2 ▸ hwritable

/-- A path that may be written leads to the file once it has been. -/
theorem CanWrite.fileAt_put {fs : FileSystem} {p : Path} {goal : Location} (h : fs.CanWrite p goal)
    (content : Bytes) (access : Access) :
    (fs.put goal (some (.file content access))).FileAt p goal content access :=
  ⟨(sameWays_put h.node_eq content access).locate_eq_ok_iff.2 (locate_of_locateForWriting h.locate),
    by rw [node_put, if_pos rfl]⟩

theorem CanWrite.truncate_eq {fs : FileSystem} {p : Path} {goal : Location}
    (h : fs.CanWrite p goal) (access : Access) : ∃ access',
      fs.truncate p access = .ok (goal, fs.put goal (some (.file [] access'))) := by
  unfold truncate
  rw [h.locate, ok_bind]
  rcases h.node with hnode | ⟨content, old, hnode, hwritable⟩
  · exact ⟨access, by simp only [hnode]⟩
  · exact ⟨old, by simp only [hnode, hwritable, if_true]⟩

theorem canWrite_of_truncate {fs emptied : FileSystem} {p : Path} {access : Access}
    {goal : Location} (h : fs.truncate p access = .ok (goal, emptied)) : fs.CanWrite p goal := by
  unfold truncate at h
  obtain ⟨location, hlocate, hopen⟩ := bind_eq_ok_iff.1 h
  split at hopen
  · contradiction
  · contradiction
  · next hnode =>
    obtain ⟨rfl, -⟩ := Prod.mk.inj (Except.ok.inj hopen)
    exact ⟨hlocate, .inl hnode⟩
  · next content old hnode =>
    split_ifs at hopen with hwritable
    obtain ⟨rfl, -⟩ := Prod.mk.inj (Except.ok.inj hopen)
    exact ⟨hlocate, .inr ⟨content, old, hnode, hwritable⟩⟩

/-- What a copy puts at its target once the target has been emptied. A source that is its own target
has nothing left to read. -/
theorem CanWrite.copy_eq {fs : FileSystem} {source target : Path} {origin goal : Location}
    {content : Bytes} {access : Access} (hsource : fs.FileAt source origin content access)
    (hreadable : access.readable = true) (htarget : fs.CanWrite target goal) :
    fs.copy source target =
      .ok (fs.put goal (some (.file (if goal = origin then [] else content) access))) := by
  obtain ⟨access', htruncate⟩ := htarget.truncate_eq access
  simp only [copy, hsource.locate, ok_bind, hsource.node, hreadable, if_true, htruncate, put_put,
    node_put, eq_comm (a := origin)]
  by_cases hsame : goal = origin
  · simp only [hsame, if_true]
  · simp only [hsame, if_false]

theorem copy_eq_ok_iff {fs files : FileSystem} {source target : Path} :
    fs.copy source target = .ok files ↔ ∃ origin content access goal,
      fs.FileAt source origin content access ∧ access.readable = true ∧ fs.CanWrite target goal ∧
        files = fs.put goal (some (.file (if goal = origin then [] else content) access)) := by
  constructor
  · intro hcopy
    have hopen := hcopy
    unfold copy at hopen
    obtain ⟨origin, hlocate, hopen⟩ := bind_eq_ok_iff.1 hopen
    split at hopen
    · contradiction
    · contradiction
    · contradiction
    · next content access hnode =>
      split_ifs at hopen with hreadable
      obtain ⟨⟨goal, emptied⟩, htruncate, -⟩ := bind_eq_ok_iff.1 hopen
      have htarget := canWrite_of_truncate htruncate
      have hfiles := htarget.copy_eq ⟨hlocate, hnode⟩ hreadable
      exact ⟨origin, content, access, goal, ⟨hlocate, hnode⟩, hreadable, htarget,
        Except.ok.inj (hcopy.symm.trans hfiles)⟩
  · rintro ⟨origin, content, access, goal, hsource, hreadable, htarget, rfl⟩
    exact htarget.copy_eq hsource hreadable

end RuntimeLauncher.FileSystem
