import Mathlib.Data.List.TakeWhile
import Mathlib.Tactic
import RuntimeLauncher.Path.Name
import RuntimeLauncher.Proofs.Text.Cuts

/-! Paths as a folder with a name behind it, and names as a stem with an extension. -/
namespace RuntimeLauncher.Path

/-- Text in which neither `/` nor `\` stands. -/
structure Bare (t : Text) : Prop where
  slash : '/' ∉ t
  backslash : '\\' ∉ t

/-- A path is a folder, which is empty or ends with a separator, and a name behind it. -/
structure Splits (p folder name : Path) : Prop where
  parts : p = folder ++ name
  ending : folder = [] ∨ ∃ front, folder = front ++ ['/'] ∨ folder = front ++ ['\\']
  bare : Bare name

/-- What is left of a name without its last `.` and what follows. A name in which no `.` stands
behind the first character is left as it is. -/
inductive StemOf : Text → Text → Prop
  | cut {front extension : Text} (hfront : front ≠ []) (hlast : '.' ∉ extension) :
    StemOf (front ++ '.' :: extension) front
  | whole {name : Text} (h : '.' ∉ name.tail) : StemOf name name

theorem isSeparator_iff {c : Char} : isSeparator c = true ↔ c = '/' ∨ c = '\\' := by
  rw [isSeparator, Bool.or_eq_true, beq_iff_eq, beq_iff_eq]

theorem bare_iff {t : Text} : Bare t ↔ ∀ c ∈ t, isSeparator c = false := by
  simp only [← Bool.not_eq_true, isSeparator_iff, not_or]
  constructor
  · rintro h c hc
    exact ⟨fun heq => h.slash (heq ▸ hc), fun heq => h.backslash (heq ▸ hc)⟩
  · intro h
    exact ⟨fun hc => (h _ hc).1 rfl, fun hc => (h _ hc).2 rfl⟩

theorem isBareName_iff {t : Text} : isBareName t = true ↔ Bare t := by
  rw [isBareName, Bool.not_eq_true', List.any_eq_false, bare_iff]
  simp only [Bool.not_eq_true]

theorem Bare.of_sublist {t part : Text} (h : Bare t) (hpart : part.Sublist t) : Bare part :=
  ⟨fun hslash => h.slash (hpart.subset hslash), fun hslash => h.backslash (hpart.subset hslash)⟩

theorem Bare.append {t u : Text} (ht : Bare t) (hu : Bare u) : Bare (t ++ u) :=
  ⟨by simp [ht.slash, hu.slash], by simp [ht.backslash, hu.backslash]⟩

theorem bare_cons_dot_iff {t : Text} : Bare ('.' :: t) ↔ Bare t := by
  constructor
  · exact fun h => h.of_sublist (List.sublist_cons_self _ _)
  · exact fun h => ⟨by simp [h.slash], by simp [h.backslash]⟩

section Folders
variable {p d c : Path}

theorem exists_splits (p : Path) : Splits p (folder p) (lastName p) := by
  refine ⟨(folder_append_lastName p).symm, ?_, bare_iff.2 fun c hc => ?_⟩
  · cases hrest : p.reverse.dropWhile (!isSeparator ·) with
    | nil => exact .inl (by rw [folder, hrest, List.reverse_nil])
    | cons separator front =>
      have hhead := List.head?_dropWhile_not (!isSeparator ·) p.reverse
      rw [hrest] at hhead
      have hseparator : separator = '/' ∨ separator = '\\' := isSeparator_iff.1 (by simpa using hhead)
      refine .inr ⟨front.reverse, ?_⟩
      rw [folder, hrest, List.reverse_cons]
      exact hseparator.imp (fun h => by rw [h]) (fun h => by rw [h])
  · rw [lastName, List.mem_reverse] at hc
    have hplain := List.mem_takeWhile_imp hc
    simpa using hplain

/-- The parts of a path are determined. -/
theorem Splits.eq (h : Splits p d c) : folder p = d ∧ lastName p = c := by
  have hplain : ∀ a ∈ c.reverse, (!isSeparator a) = true := by
    intro a ha
    rw [bare_iff.1 h.bare a (List.mem_reverse.1 ha), Bool.not_false]
  have hreverse : p.reverse = c.reverse ++ d.reverse := by rw [h.parts, List.reverse_append]
  have hstop : d.reverse.takeWhile (!isSeparator ·) = [] ∧
      d.reverse.dropWhile (!isSeparator ·) = d.reverse := by
    rcases h.ending with rfl | ⟨front, rfl | rfl⟩
    · exact ⟨rfl, rfl⟩
    · rw [List.reverse_append]
      exact ⟨rfl, rfl⟩
    · rw [List.reverse_append]
      exact ⟨rfl, rfl⟩
  constructor
  · rw [folder, hreverse, List.dropWhile_append_of_pos hplain, hstop.2, List.reverse_reverse]
  · rw [lastName, hreverse, List.takeWhile_append_of_pos hplain, hstop.1, List.append_nil,
      List.reverse_reverse]

theorem Bare.splits (h : Bare c) : Splits c [] c := ⟨rfl, .inl rfl, h⟩

theorem Splits.withName (h : Splits p d c) {name : Path} (hname : Bare name) :
    Splits (d ++ name) d name := ⟨rfl, h.ending, hname⟩

end Folders

section Stems
variable {name s : Text}

theorem stem_append_cons {front extension : Text} (hfront : front ≠ []) (hlast : '.' ∉ extension) :
    stem (front ++ '.' :: extension) = front := by
  obtain ⟨a, rest, rfl⟩ := List.exists_cons_of_ne_nil hfront
  rw [stem, cutLast_append_cons hlast]

theorem stem_of_not_mem_tail (h : '.' ∉ name.tail) : stem name = name := by
  by_cases hdot : '.' ∈ name
  · -- the one `.` is in front
    cases name with
    | nil => contradiction
    | cons a rest =>
      obtain rfl : '.' = a := (List.mem_cons.1 hdot).resolve_right h
      have hcut : cutLast '.' ('.' :: rest) = some ([], rest) := cutLast_append_cons h []
      rw [stem, hcut]
  · rw [stem, cutLast_of_not_mem hdot]

theorem stemOf_stem (name : Text) : StemOf name (stem name) := by
  by_cases htail : '.' ∈ name.tail
  · obtain ⟨front, extension, hparts, hlast⟩ := exists_lastCut htail
    obtain ⟨a, rest, rfl⟩ := List.exists_cons_of_ne_nil (l := name) (by rintro rfl; contradiction)
    have hname : a :: rest = a :: front ++ '.' :: extension := congrArg (a :: ·) hparts
    rw [hname, stem_append_cons (List.cons_ne_nil a front) hlast]
    exact .cut (List.cons_ne_nil a front) hlast
  · rw [stem_of_not_mem_tail htail]
    exact .whole htail

theorem stem_eq_iff : stem name = s ↔ StemOf name s := by
  constructor
  · rintro rfl
    exact stemOf_stem name
  · intro h
    cases h with
    | cut hfront hlast => exact stem_append_cons hfront hlast
    | whole h => exact stem_of_not_mem_tail h

theorem StemOf.isPrefix (h : StemOf name s) : s <+: name := by
  cases h with
  | cut => exact List.prefix_append _ _
  | whole => exact List.prefix_rfl

theorem stem_ne_nil (h : name ≠ []) : stem name ≠ [] := by
  intro hnil
  cases stem_eq_iff.1 hnil with
  | cut hfront => exact hfront rfl
  | whole => exact h rfl

theorem bare_stem (h : Bare name) : Bare (stem name) :=
  h.of_sublist (stemOf_stem name).isPrefix.sublist

end Stems

section Extensions
variable {p d c : Path}

theorem Splits.stripExtension_eq (h : Splits p d c) : stripExtension p = d ++ stem c := by
  rw [stripExtension, h.eq.1, h.eq.2]

theorem Splits.withExtension_eq (h : Splits p d c) (extension : Text) :
    withExtension p extension = d ++ (stem c ++ '.' :: extension) := by
  rw [withExtension, h.stripExtension_eq, List.append_assoc]

/-- The new name is the old stem with the new extension. -/
theorem Splits.splits_withExtension (h : Splits p d c) {extension : Text}
    (hextension : Bare extension) :
    Splits (withExtension p extension) d (stem c ++ '.' :: extension) := by
  rw [h.withExtension_eq]
  exact h.withName ((bare_stem h.bare).append (bare_cons_dot_iff.2 hextension))

/-- An extension is taken off again exactly if no `.` stands in it. -/
theorem stem_append_cons_iff {front extension : Text} (hfront : front ≠ []) :
    stem (front ++ '.' :: extension) = front ↔ '.' ∉ extension := by
  constructor
  · intro hstem hdot
    obtain ⟨left, right, rfl, hlast⟩ := exists_lastCut hdot
    have hparts : front ++ '.' :: (left ++ '.' :: right) = (front ++ '.' :: left) ++ '.' :: right := by
      simp
    rw [hparts, stem_append_cons (by simp) hlast] at hstem
    simp at hstem
  · exact stem_append_cons hfront

end Extensions

end RuntimeLauncher.Path
