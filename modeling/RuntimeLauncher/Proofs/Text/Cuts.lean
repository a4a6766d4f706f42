import Mathlib.Tactic
import RuntimeLauncher.Text.Basic

/-! Lists cut at a separator, and the first place where one list stands in another. -/
namespace RuntimeLauncher

variable {α : Type}

/-- The list is `front`, `part` and `back`, and `part` begins nowhere earlier in it. -/
structure FirstAt (part l front back : List α) : Prop where
  parts : l = front ++ part ++ back
  first : ∀ u v, l = u ++ part ++ v → front.length ≤ u.length

namespace FirstAt
variable {part l front front' back back' : List α}

theorem unique (h : FirstAt part l front back) (h' : FirstAt part l front' back') :
    front = front' ∧ back = back' := by
  have hlength : front.length = front'.length :=
    Nat.le_antisymm (h.first _ _ h'.parts) (h'.first _ _ h.parts)
  have hparts : front ++ (part ++ back) = front' ++ (part ++ back') := by
    simpa using h.parts.symm.trans h'.parts
  obtain ⟨hfront, hrest⟩ := List.append_inj hparts hlength
  exact ⟨hfront, List.append_cancel_left hrest⟩

/-- One more element in front, with which `part` does not begin. -/
theorem cons {a : α} (hstart : ¬ part <+: a :: l) (h : FirstAt part l front back) :
    FirstAt part (a :: l) (a :: front) back := by
  constructor
  · rw [h.parts, List.cons_append, List.cons_append]
  · intro u v huv
    cases u with
    | nil => exact absurd ⟨v, huv.symm⟩ hstart
    | cons b u =>
      have hl : l = u ++ part ++ v := (List.cons.inj huv).2
      exact Nat.succ_le_succ (h.first u v hl)

end FirstAt

/-- Where a list has a separator, it has a last one. -/
theorem exists_lastCut {sep : α} {l : List α} (h : sep ∈ l) :
    ∃ left right, l = left ++ sep :: right ∧ sep ∉ right := by
  obtain ⟨right, left, hparts, hright⟩ := List.eq_append_cons_of_mem (List.mem_reverse.2 h)
  refine ⟨left.reverse, right.reverse, ?_, by simpa using hright⟩
  simpa using congrArg List.reverse hparts

/-- A list has no element of a kind, or goes on behind its first one. -/
@[elab_as_elim]
theorem kindInduction (kind : α → Bool) {motive : List α → Prop}
    (whole : ∀ l, (∀ a ∈ l, kind a = false) → motive l)
    (cut : ∀ left mark right, (∀ a ∈ left, kind a = false) → kind mark = true → motive right →
      motive (left ++ mark :: right)) (l : List α) : motive l := by
  induction hlength : l.length using Nat.strong_induction_on generalizing l with
  | _ n ih =>
    cases hfind : l.find? kind with
    | none => exact whole l fun a ha => Bool.eq_false_of_not_eq_true (List.find?_eq_none.1 hfind a ha)
    | some mark =>
      obtain ⟨hmark, left, right, rfl, hleft⟩ := List.find?_eq_some_iff_append.1 hfind
      have hshort : right.length < n := by
        rw [← hlength, List.length_append, List.length_cons]
        omega
      have hplain : ∀ a ∈ left, kind a = false := fun a ha => by simpa using hleft a ha
      apply cut left mark right hplain hmark
      exact ih right.length hshort right rfl

variable [BEq α] [LawfulBEq α]

/-- A list has no separator, or goes on behind its first one. -/
@[elab_as_elim]
theorem cutInduction (sep : α) {motive : List α → Prop} (whole : ∀ l, sep ∉ l → motive l)
    (cut : ∀ left right, sep ∉ left → motive right → motive (left ++ sep :: right))
    (l : List α) : motive l := by
  have hnone {l : List α} (h : ∀ a ∈ l, (a == sep) = false) : sep ∉ l := fun hmem => by
    simpa using h sep hmem
  induction l using kindInduction (· == sep) with
  | whole l h => exact whole l (hnone h)
  | cut left mark right hleft hmark ih =>
    obtain rfl : mark = sep := beq_iff_eq.1 hmark
    exact cut left right (hnone hleft) ih

theorem cutLast_append_cons {sep : α} {right : List α} (h : sep ∉ right) (left : List α) :
    cutLast sep (left ++ sep :: right) = some (left, right) := by
  have hreverse : (left ++ sep :: right).reverse = right.reverse ++ sep :: left.reverse := by simp
  have hcut := cutFirst_append_cons (List.mem_reverse.not.2 h) left.reverse
  rw [cutLast, hreverse, hcut, Option.map_some, List.reverse_reverse, List.reverse_reverse]

theorem cutLast_of_not_mem {sep : α} {l : List α} (h : sep ∉ l) : cutLast sep l = none := by
  rw [cutLast, cutFirst_eq_none_iff.2 (List.mem_reverse.not.2 h), Option.map_none]

theorem not_mem_of_mem_splitOn {sep : α} {l piece : List α} (h : piece ∈ l.splitOn sep) :
    sep ∉ piece := by
  induction l using cutInduction sep with
  | whole l hnone =>
    rw [List.splitOn_eq_singleton hnone, List.mem_singleton] at h
    rwa [h]
  | cut left right hleft ih =>
    rw [List.splitOn_append_cons_self_of_not_mem hleft] at h
    rcases List.mem_cons.1 h with rfl | hright
    · exact hleft
    · exact ih hright

theorem isInfix_of_mem_splitOn {sep : α} {l piece : List α} (h : piece ∈ l.splitOn sep) :
    piece <:+: l := by
  induction l using cutInduction sep with
  | whole l hnone =>
    rw [List.splitOn_eq_singleton hnone, List.mem_singleton] at h
    rw [h]
  | cut left right hleft ih =>
    rw [List.splitOn_append_cons_self_of_not_mem hleft] at h
    rcases List.mem_cons.1 h with rfl | hright
    · exact (List.prefix_append piece _).isInfix
    · have hsuffix : right <:+ left ++ sep :: right := ⟨left ++ [sep], by simp⟩
      exact (ih hright).trans hsuffix.isInfix

theorem throughFirst_eq_none_iff {part l : List α} :
    throughFirst part l = none ↔ ¬ part <:+: l := by
  induction l with
  | nil => simp [throughFirst]
  | cons a rest ih =>
    rw [throughFirst, List.infix_cons_iff, not_or, ← List.isPrefixOf_iff_prefix]
    split
    · next hpart => simp [hpart]
    · next hpart => simp [hpart, ih]

theorem exists_firstAt {part l found : List α} (h : throughFirst part l = some found) :
    ∃ front back, FirstAt part l front back ∧ found = front ++ part := by
  induction l generalizing found with
  | nil =>
    rw [throughFirst, Option.ite_none_right_eq_some, List.isEmpty_iff] at h
    obtain ⟨rfl, hfound⟩ := h
    obtain rfl := Option.some.inj hfound
    exact ⟨[], [], ⟨rfl, fun _ _ _ => Nat.zero_le _⟩, rfl⟩
  | cons a rest ih =>
    rw [throughFirst] at h
    split at h
    · next hpart =>
      obtain rfl := Option.some.inj h
      obtain ⟨back, hback⟩ := List.isPrefixOf_iff_prefix.1 hpart
      exact ⟨[], back, ⟨hback.symm, fun _ _ _ => Nat.zero_le _⟩, rfl⟩
    · next hpart =>
      obtain ⟨more, hmore, rfl⟩ := Option.map_eq_some_iff.1 h
      obtain ⟨front, back, hfirst, rfl⟩ := ih hmore
      rw [List.isPrefixOf_iff_prefix] at hpart
      exact ⟨a :: front, back, hfirst.cons hpart, rfl⟩

theorem FirstAt.throughFirst_eq {part l front back : List α} (h : FirstAt part l front back) :
    throughFirst part l = some (front ++ part) := by
  cases hfound : throughFirst part l with
  | none =>
    have hinfix : part <:+: l := ⟨front, back, h.parts.symm⟩
    exact absurd hinfix (throughFirst_eq_none_iff.1 hfound)
  | some found =>
    obtain ⟨front', back', h', rfl⟩ := exists_firstAt hfound
    rw [(h.unique h').1]

theorem firstAt_iff {part l front back : List α} : FirstAt part l front back ↔
    l = front ++ part ++ back ∧ throughFirst part l = some (front ++ part) := by
  constructor
  · intro h
    exact ⟨h.parts, h.throughFirst_eq⟩
  · rintro ⟨hparts, hfound⟩
    obtain ⟨front', back', h, heq⟩ := exists_firstAt hfound
    obtain rfl := List.append_cancel_right heq
    have hback : back = back' := List.append_cancel_left (hparts.symm.trans h.parts)
    rwa [hback]

end RuntimeLauncher
