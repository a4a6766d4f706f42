import Mathlib.Tactic
import RuntimeLauncher.FileSystem.Basic
import RuntimeLauncher.Proofs.Path.Components

/-! The way to a name leads through its folder: where a path that ends with a name leads somewhere,
the path in front of the name leads to a directory. -/
namespace RuntimeLauncher

namespace Path

/-- A name that is joined to a path comes behind a slash, which may be the last one of the path. -/
theorem exists_join_eq {folder : Path} (hfolder : folder ≠ []) {name : Text} (hname : '/' ∉ name) :
    ∃ base, join folder name = base ++ '/' :: name ∧
      (folder = base ∧ folder.getLast? ≠ some '/' ∨ folder = base ++ ['/']) := by
  have hrelative : ¬ isAbsolute name = true := fun h => hname (slash_mem_of_isAbsolute h)
  rw [join, if_neg hrelative]
  by_cases hslash : folder.getLast? = some '/'
  · obtain ⟨base, rfl⟩ := List.getLast?_eq_some_iff.1 hslash
    rw [if_pos (by simp [hslash])]
    exact ⟨base, by simp, .inr rfl⟩
  · rw [if_neg (by simp [hfolder, hslash])]
    exact ⟨folder, rfl, .inl ⟨rfl, hslash⟩⟩

/-- Paths that are absolute or not alike have the same text put in front of them. -/
theorem exists_join_front (cwd p : Path) :
    ∃ front, ∀ q, isAbsolute q = isAbsolute p → join cwd q = front ++ q := by
  unfold join
  by_cases habsolute : isAbsolute p = true
  · exact ⟨[], fun q hq => if_pos (hq.trans habsolute)⟩
  by_cases hend : (cwd = [] || cwd.getLast? == some '/') = true
  · refine ⟨cwd, fun q hq => ?_⟩
    rw [if_neg (hq ▸ habsolute), if_pos hend]
  · refine ⟨cwd ++ ['/'], fun q hq => ?_⟩
    rw [if_neg (hq ▸ habsolute), if_neg hend, List.append_assoc, List.singleton_append]

/-- The names of a path, a final slash apart. -/
def walked (p : Path) : List Text := (p.splitOn '/').filter (· ≠ [])

theorem names_of_not_final {p : Path} (h : p.getLast? ≠ some '/') : names p = walked p := by
  rw [names, if_neg h, List.append_nil, walked]

theorem names_final (base : Path) : names (base ++ ['/']) = walked base ++ [['.']] := by
  have hsplit : (base ++ ['/']).splitOn '/' = base.splitOn '/' ++ [[]] := by
    rw [List.splitOn_append_cons_self, List.splitOn_nil]
  rw [names, if_pos (by simp), hsplit, List.filter_append, walked]
  simp

theorem names_append_name (base : Path) {name : Text} (hname : '/' ∉ name) (hne : name ≠ []) :
    names (base ++ '/' :: name) = walked base ++ [name] := by
  have hlast : (base ++ '/' :: name).getLast? ≠ some '/' := by
    rw [List.append_cons, List.getLast?_append_of_ne_nil _ hne]
    exact fun hslash => hname (List.mem_of_getLast? hslash)
  rw [names_of_not_final hlast, walked, List.splitOn_append_cons_self, List.splitOn_eq_singleton hname,
    List.filter_append, walked]
  simp [hne]

/-- The names up to a joined one are those of the folder, where a final slash counts as `.`. -/
theorem exists_names_join (cwd : Path) {folder : Path} (hfolder : folder ≠ []) {name : Text}
    (hname : '/' ∉ name) (hne : name ≠ []) :
    ∃ front, names (join cwd (join folder name)) = front ++ [name] ∧
      (names (join cwd folder) = front ∨ names (join cwd folder) = front ++ [['.']]) := by
  obtain ⟨start, hstart⟩ := exists_join_front cwd folder
  obtain ⟨base, hjoin, hbase⟩ := exists_join_eq hfolder hname
  have habsolute : isAbsolute (join folder name) = isAbsolute folder := by
    rw [hjoin]
    rcases hbase with ⟨rfl, -⟩ | rfl
    · exact isAbsolute_append hfolder _
    · rw [List.append_cons, isAbsolute_append hfolder]
  rw [hstart _ habsolute, hstart folder rfl, hjoin, ← List.append_assoc]
  refine ⟨walked (start ++ base), names_append_name _ hname hne, ?_⟩
  rcases hbase with ⟨rfl, hlast⟩ | rfl
  · refine .inl (names_of_not_final ?_)
    rwa [List.getLast?_append_of_ne_nil _ hfolder]
  · rw [← List.append_assoc]
    exact .inr (names_final _)

end Path

namespace FileSystem
variable {fs : FileSystem}

/-- A name is looked up in a directory only. -/
theorem node_of_walk_cons {expand : Location → List Text → Except Failure Location}
    {here location : Location} {name : Text} {rest : List Text}
    (h : fs.walk expand here (name :: rest) = .ok location) : fs.node here = some .directory := by
  unfold walk at h
  split at h <;> first | contradiction | assumption

variable (fs) in
/-- Names lead to a directory, also with a `.` behind them. -/
def LeadsToDirectory (lead : Location → List Text → Except Failure Location) (here : Location)
    (names : List Text) : Prop :=
  ∃ folder, fs.node folder = some .directory ∧ lead here names = .ok folder ∧
    lead here (names ++ [['.']]) = .ok folder

/-- Each name is looked up in a directory, so all names but the last lead to one. -/
theorem walk_leadsToDirectory {expand : Location → List Text → Except Failure Location}
    {name : Text} (hexpand : ∀ here names location, expand here (names ++ [name]) = .ok location →
      fs.LeadsToDirectory expand here names)
    {here location : Location} {names : List Text}
    (h : fs.walk expand here (names ++ [name]) = .ok location) :
    fs.LeadsToDirectory (fs.walk expand) here names := by
  induction names generalizing here with
  | nil =>
    have hhere := node_of_walk_cons h
    refine ⟨here, hhere, rfl, ?_⟩
    simp [walk, hhere]
  | cons first rest ih =>
    have hhere := node_of_walk_cons h
    simp only [List.cons_append, walk, hhere] at h
    unfold LeadsToDirectory
    simp only [List.cons_append, walk, hhere]
    split_ifs at h ⊢ with hcurrent hparent hlong
    · exact ih h
    · exact ih h
    · cases hnode : fs.node (here ++ [first]) with
      | none =>
        simp only [hnode] at h
        exact ih h
      | some node =>
        cases node with
        | file content access =>
          simp only [hnode] at h
          exact ih h
        | directory =>
          simp only [hnode] at h
          exact ih h
        | link target =>
          simp only [hnode, ← List.append_assoc] at h ⊢
          exact hexpand _ _ _ h

theorem follow_leadsToDirectory {links : Nat} {here location : Location} {names : List Text}
    {name : Text} (h : fs.follow links here (names ++ [name]) = .ok location) :
    fs.LeadsToDirectory (fs.follow links) here names := by
  induction links generalizing here location names with
  | zero =>
    rw [follow] at h ⊢
    exact walk_leadsToDirectory (fun _ _ _ hexpand => by contradiction) h
  | succ links ih =>
    rw [follow] at h ⊢
    exact walk_leadsToDirectory (fun _ _ _ hexpand => ih hexpand) h

/-- What stands under a name in a folder stands in a directory. -/
theorem isDirectory_of_locate_join {folder : Path} (hfolder : folder ≠ []) {name : Text}
    (hname : '/' ∉ name) (hne : name ≠ []) {location : Location}
    (h : fs.locate (Path.join folder name) = .ok location) : fs.isDirectory folder = true := by
  have hprefix : folder <+: Path.join folder name := by
    obtain ⟨base, hjoin, ⟨rfl, -⟩ | rfl⟩ := Path.exists_join_eq hfolder hname
    · rw [hjoin]
      exact List.prefix_append _ _
    · exact ⟨name, by rw [hjoin, List.append_assoc, List.singleton_append]⟩
  have hlength : (Utf8.encode folder).length ≤ (Utf8.encode (Path.join folder name)).length := by
    obtain ⟨rest, hrest⟩ := hprefix
    rw [← hrest, Utf8.encode, Utf8.encode, List.flatMap_append, List.length_append]
    omega
  unfold locate at h
  split_ifs at h with hnul hempty hlong
  obtain ⟨front, hnames, hsame⟩ := Path.exists_names_join fs.workingDirectory hfolder hname hne
  rw [hnames] at h
  obtain ⟨place, hplace, hplain, hcurrent⟩ := follow_leadsToDirectory h
  have hnul' : ¬ folder.contains '\x00' = true := by
    simp only [List.contains_iff_mem] at hnul ⊢
    exact fun hmem => hnul <| hprefix.subset hmem
  have hlocate : fs.locate folder = .ok place := by
    rw [locate, if_neg hnul', if_neg hfolder, if_neg (by omega)]
    rcases hsame with hsame | hsame
    · rw [hsame, hplain]
    · rw [hsame, hcurrent]
  simp only [isDirectory, node?, hlocate, hplace]

end FileSystem

end RuntimeLauncher
