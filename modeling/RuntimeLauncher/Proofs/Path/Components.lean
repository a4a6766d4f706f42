import Mathlib.Tactic
import RuntimeLauncher.Path.Basic
import RuntimeLauncher.Proofs.Text.Cuts

/-! Components of a path that is put together from two: those of the front, and then what the rest
adds. -/
namespace RuntimeLauncher.Path

/-- The components that follow a root or a `.` in front. -/
def inner (p : Path) : List Component := (p.splitOn '/').filterMap Component.ofPiece

theorem components_eq_inner {p : Path} (h : isAbsolute p = true) :
    components p = .root :: inner p := by
  rw [components, if_pos h, List.singleton_append, inner]

theorem inner_append_slash (base p : Path) : inner (base ++ '/' :: p) = inner base ++ inner p := by
  rw [inner, List.splitOn_append_cons_self, List.filterMap_append, inner, inner]

theorem isAbsolute_iff_prefix {p : Path} : isAbsolute p = true ↔ ['/'] <+: p := by
  cases p with
  | nil => simp [isAbsolute]
  | cons c rest =>
    simp only [isAbsolute, List.head?_cons, beq_iff_eq, Option.some.injEq, List.cons_prefix_cons,
      List.nil_prefix, and_true]
    exact eq_comm

theorem slash_mem_of_isAbsolute {p : Path} (h : isAbsolute p = true) : '/' ∈ p := by
  obtain ⟨rest, rfl⟩ := isAbsolute_iff_prefix.1 h
  exact List.mem_cons_self

theorem isAbsolute_append {base : Path} (h : base ≠ []) (p : Path) :
    isAbsolute (base ++ p) = isAbsolute base := by
  rw [isAbsolute, isAbsolute, List.head?_append_of_ne_nil _ h]

theorem components_append_slash {base : Path} (h : base ≠ []) (p : Path) :
    components (base ++ '/' :: p) = components base ++ inner p := by
  have hfront : ((base ++ '/' :: p).splitOn '/').head? = (base.splitOn '/').head? := by
    rw [List.splitOn_append_cons_self, List.head?_append_of_ne_nil _ (List.splitOn_ne_nil _ _)]
  have hinner := inner_append_slash base p
  rw [inner, inner] at hinner
  rw [components, components, isAbsolute_append h, hfront, hinner, List.append_assoc]

/-- A final slash adds nothing. -/
theorem components_append_final (base : Path) (p : Path) :
    components (base ++ '/' :: p) = components (base ++ ['/']) ++ inner p := by
  by_cases h : base = []
  · have hroot (p : Path) : components ('/' :: p) = .root :: inner p := by
      have hinner := inner_append_slash [] p
      rw [components_eq_inner rfl, ← List.nil_append ('/' :: p), hinner]
      rfl
    subst h
    rw [List.nil_append, List.nil_append, hroot, hroot]
    rfl
  · have hnil : inner [] = [] := rfl
    rw [components_append_slash h, components_append_slash h, hnil, List.append_nil]

/-- A relative path that is joined to a directory comes after the components of this directory. -/
theorem components_join {base p : Path} (hbase : base ≠ []) (hp : isAbsolute p = false) :
    components (join base p) = components base ++ inner p := by
  have hrelative : ¬ isAbsolute p = true := by simp [hp]
  rw [join, if_neg hrelative]
  by_cases hslash : base.getLast? = some '/'
  · obtain ⟨front, rfl⟩ := List.getLast?_eq_some_iff.1 hslash
    rw [if_pos (by simp [hslash]), List.append_assoc, List.singleton_append,
      components_append_final]
  · rw [if_neg (by simp [hbase, hslash]), components_append_slash hbase]

theorem ofPiece_of_long {piece : Text} (h : 2 < piece.length) :
    Component.ofPiece piece = some (.name piece) := by
  have hshort (other : Text) (hother : other.length ≤ 2) : piece ≠ other := by
    rintro rfl
    omega
  rw [Component.ofPiece, if_neg (hshort _ (by decide)), if_neg (hshort _ (by decide)),
    if_neg (hshort _ (by decide))]

theorem inner_of_long {piece : Text} (h : '/' ∉ piece) (hlong : 2 < piece.length) :
    inner piece = [.name piece] := by
  rw [inner, List.splitOn_eq_singleton h, List.filterMap_cons, ofPiece_of_long hlong,
    List.filterMap_nil]

/-- A piece that goes on is a component with more text. -/
theorem exists_inner_append {piece : Text} (h : '/' ∉ piece) (hlong : 2 < piece.length) {c : Char}
    (hc : c ≠ '/') (rest : Text) :
    ∃ tail others, inner (piece ++ c :: rest) = .name (piece ++ c :: tail) :: others := by
  have hone {tail : Text} (htail : '/' ∉ tail) :
      inner (piece ++ c :: tail) = [.name (piece ++ c :: tail)] := by
    apply inner_of_long
    · simp [h, htail, Ne.symm hc]
    · rw [List.length_append]
      omega
  by_cases hrest : '/' ∈ rest
  · obtain ⟨tail, more, rfl, htail⟩ := List.eq_append_cons_of_mem hrest
    refine ⟨tail, inner more, ?_⟩
    rw [← List.cons_append, ← List.append_assoc, inner_append_slash, hone htail,
      List.singleton_append]
  · exact ⟨rest, [], hone hrest⟩

theorem ofPiece_eq_some_name {piece text : Text} (h : Component.ofPiece piece = some (.name text)) :
    text = piece := by
  unfold Component.ofPiece at h
  split_ifs at h
  · cases h
  · exact (Component.name.inj (Option.some.inj h)).symm

theorem isInfix_of_name_mem_inner {p : Path} {text : Text} (h : .name text ∈ inner p) :
    text <:+: p := by
  obtain ⟨piece, hpiece, hname⟩ := List.mem_filterMap.1 h
  obtain rfl := ofPiece_eq_some_name hname
  exact isInfix_of_mem_splitOn hpiece

end RuntimeLauncher.Path
