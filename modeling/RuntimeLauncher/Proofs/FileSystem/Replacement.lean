import Mathlib.Tactic
import RuntimeLauncher.Proofs.FileSystem.Writing

/-! Other content in a file: every path leads where it did, and other files are read as before. -/
namespace RuntimeLauncher.FileSystem

/-- Two trees that differ at most in what their files hold and in who may use them. -/
structure SameShape (fs fs' : FileSystem) : Prop where
  workingDirectory : fs'.workingDirectory = fs.workingDirectory
  node : ∀ l, fs'.node l = fs.node l ∨
    (∃ content access, fs.node l = some (.file content access)) ∧
      ∃ content access, fs'.node l = some (.file content access)

theorem FileAt.sameShape_put {fs : FileSystem} {p : Path} {location : Location} {old : Bytes}
    {access : Access} (h : fs.FileAt p location old access) (content : Bytes) (access' : Access) :
    SameShape fs (fs.put location (some (.file content access'))) := by
  refine ⟨rfl, fun l => ?_⟩
  rw [node_put]
  split_ifs with hl
  · subst hl
    exact .inr ⟨⟨old, access, h.node⟩, content, access', rfl⟩
  · exact .inl rfl

namespace SameShape
variable {fs fs' : FileSystem}

theorem walk_eq (h : SameShape fs fs')
    {expand expand' : Location → List Text → Except Failure Location} (hexpand : expand' = expand)
    (here : Location) (names : List Text) :
    fs'.walk expand' here names = fs.walk expand here names := by
  subst hexpand
  induction names generalizing here with
  | nil => rfl
  | cons name rest ih =>
    unfold walk
    rcases h.node here with hsame | ⟨⟨_, _, hold⟩, _, _, hnew⟩
    · simp only [hsame, ih]
      -- only a link at the next name matters, and no file takes the place of one
      rcases h.node (here ++ [name]) with hsame' | ⟨⟨_, _, hold⟩, _, _, hnew⟩
      · simp only [hsame']
      · simp only [hold, hnew]
    · simp only [hold, hnew]

theorem follow_eq (h : SameShape fs fs') (links : Nat) : fs'.follow links = fs.follow links := by
  induction links with
  | zero =>
    funext here names
    exact h.walk_eq rfl here names
  | succ links ih =>
    funext here names
    exact h.walk_eq ih here names

theorem locate_eq (h : SameShape fs fs') (p : Path) : fs'.locate p = fs.locate p := by
  unfold locate
  rw [h.workingDirectory, h.follow_eq]

theorem isDirectory_eq (h : SameShape fs fs') (p : Path) :
    fs'.isDirectory p = fs.isDirectory p := by
  unfold isDirectory node?
  rw [h.locate_eq]
  cases fs.locate p with
  | error failure => rfl
  | ok location =>
    rcases h.node location with hsame | ⟨⟨_, _, hold⟩, _, _, hnew⟩
    · simp only [hsame]
    · simp only [hold, hnew]

theorem isFile_eq (h : SameShape fs fs') (p : Path) : fs'.isFile p = fs.isFile p := by
  unfold isFile node?
  rw [h.locate_eq]
  cases fs.locate p with
  | error failure => rfl
  | ok location =>
    rcases h.node location with hsame | ⟨⟨_, _, hold⟩, _, _, hnew⟩
    · simp only [hsame]
    · simp only [hold, hnew]

theorem readText_eq (h : SameShape fs fs') {p : Path}
    (hnode : ∀ location, fs.locate p = .ok location → fs'.node location = fs.node location) :
    fs'.readText p = fs.readText p := by
  unfold readText read contentAt
  rw [h.locate_eq]
  cases hlocate : fs.locate p with
  | error failure => rfl
  | ok location => rw [ok_bind, ok_bind, hnode location hlocate]

end SameShape

end RuntimeLauncher.FileSystem
