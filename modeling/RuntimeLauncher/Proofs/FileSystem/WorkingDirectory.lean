import RuntimeLauncher.FileSystem.Basic

/-! A process that works in another directory sees the same files under absolute paths. -/
namespace RuntimeLauncher.FileSystem

/-- The tree as it is for a process that works in a directory. -/
def enter (fs : FileSystem) (directory : Path) : FileSystem :=
  { fs with workingDirectory := directory }

variable (fs : FileSystem) (directory : Path)

theorem walk_enter (expand : Location → List Text → Except Failure Location) (here : Location)
    (names : List Text) : (fs.enter directory).walk expand here names = fs.walk expand here names := by
  induction names generalizing here with
  | nil => rfl
  | cons name rest ih => simp only [walk, enter] at ih ⊢; simp only [ih]

theorem follow_enter (links : Nat) : (fs.enter directory).follow links = fs.follow links := by
  induction links with
  | zero =>
    funext here names
    exact walk_enter fs directory _ here names
  | succ links ih =>
    funext here names
    rw [follow, follow, ih, walk_enter]

theorem locate_enter {p : Path} (h : Path.isAbsolute p = true) :
    (fs.enter directory).locate p = fs.locate p := by
  simp only [locate, follow_enter, Path.join, h, if_true]

theorem isFile_enter {p : Path} (h : Path.isAbsolute p = true) :
    (fs.enter directory).isFile p = fs.isFile p := by
  rw [isFile, isFile, node?, node?, locate_enter fs directory h]
  rfl

theorem isDirectory_enter {p : Path} (h : Path.isAbsolute p = true) :
    (fs.enter directory).isDirectory p = fs.isDirectory p := by
  rw [isDirectory, isDirectory, node?, node?, locate_enter fs directory h]
  rfl

theorem readText_enter {p : Path} (h : Path.isAbsolute p = true) :
    (fs.enter directory).readText p = fs.readText p := by
  rw [readText, readText, read, read, locate_enter fs directory h]
  rfl

end RuntimeLauncher.FileSystem
