/-! Text and bytes as lists, with the cuts the formats of this library are made of. -/
namespace RuntimeLauncher

/-- Text is the list of its characters. -/
abbrev Text := List Char

/-- Bytes in order of their offset. -/
abbrev Bytes := List UInt8

variable {α : Type}

def headIs (kind : α → Bool) : List α → Bool
  | [] => false
  | a :: _ => kind a

variable [BEq α]

/-- The parts before and after the first `sep`. -/
def cutFirst (sep : α) : List α → Option (List α × List α)
  | [] => none
  | a :: rest =>
    if a == sep then some ([], rest)
    else (cutFirst sep rest).map fun parts => (a :: parts.1, parts.2)

/-- The parts before and after the last `sep`. -/
def cutLast (sep : α) (l : List α) : Option (List α × List α) :=
  (cutFirst sep l.reverse).map fun parts => (parts.2.reverse, parts.1.reverse)

/-- What follows `start`, if the list begins with it. -/
def stripStart : List α → List α → Option (List α)
  | [], l => some l
  | _ :: _, [] => none
  | s :: start, a :: l => if a == s then stripStart start l else none

/-- What precedes `tail`, if the list ends with it. -/
def stripEnd (tail l : List α) : Option (List α) :=
  (stripStart tail.reverse l.reverse).map List.reverse

/-- The list up to the end of the first occurrence of `part`. -/
def throughFirst (part : List α) : List α → Option (List α)
  | [] => if part.isEmpty then some [] else none
  | a :: rest =>
    if part.isPrefixOf (a :: rest) then some part
    else (throughFirst part rest).map (a :: ·)

section Lawful
variable [LawfulBEq α]

theorem cutFirst_eq_some_iff {sep : α} {l left right : List α} :
    cutFirst sep l = some (left, right) ↔ l = left ++ sep :: right ∧ sep ∉ left := by
  induction l generalizing left with
  | nil => simp [cutFirst]
  | cons a rest ih =>
    by_cases h : a = sep
    · subst h
      cases left with
      | nil => simp [cutFirst, eq_comm]
      | cons b left => simp [cutFirst]; grind
    · cases left with
      | nil => simp [cutFirst, h]
      | cons b left =>
        simp only [cutFirst, beq_iff_eq, h, if_false, Option.map_eq_some_iff, Prod.mk.injEq,
          Prod.exists, List.cons.injEq, List.cons_append]
        constructor
        · rintro ⟨u, v, huv, ⟨rfl, rfl⟩, rfl⟩
          obtain ⟨rfl, hn⟩ := ih.1 huv
          exact ⟨⟨rfl, rfl⟩, by simpa [Ne.symm h] using hn⟩
        · rintro ⟨⟨rfl, rfl⟩, hn⟩
          exact ⟨left, right, ih.2 ⟨rfl, fun hm => hn (by simp [hm])⟩, ⟨rfl, rfl⟩, rfl⟩

theorem cutFirst_append_cons {sep : α} {left : List α} (h : sep ∉ left) (right : List α) :
    cutFirst sep (left ++ sep :: right) = some (left, right) :=
  cutFirst_eq_some_iff.2 ⟨rfl, h⟩

theorem cutFirst_eq_none_iff {sep : α} {l : List α} : cutFirst sep l = none ↔ sep ∉ l := by
  induction l with
  | nil => simp [cutFirst]
  | cons a rest ih =>
    by_cases h : a = sep
    · simp [cutFirst, h]
    · simp [cutFirst, h, ih, Ne.symm h]

theorem stripStart_eq_some_iff {start l rest : List α} :
    stripStart start l = some rest ↔ l = start ++ rest := by
  induction start generalizing l with
  | nil => simp [stripStart]
  | cons s start ih =>
    cases l with
    | nil => simp [stripStart]
    | cons a l =>
      by_cases h : a = s
      · simp [stripStart, h, ih]
      · simp [stripStart, h]

theorem stripStart_eq_none_iff {start l : List α} : stripStart start l = none ↔ ¬ start <+: l := by
  constructor
  · rintro h ⟨rest, hrest⟩
    rw [stripStart_eq_some_iff.2 hrest.symm] at h
    contradiction
  · intro h
    rw [Option.eq_none_iff_forall_ne_some]
    intro rest hrest
    exact h ⟨rest, (stripStart_eq_some_iff.1 hrest).symm⟩

theorem stripEnd_eq_some_iff {tail l front : List α} :
    stripEnd tail l = some front ↔ l = front ++ tail := by
  simp only [stripEnd, Option.map_eq_some_iff, stripStart_eq_some_iff]
  constructor
  · rintro ⟨u, hu, rfl⟩
    simpa using congrArg List.reverse hu
  · rintro rfl
    exact ⟨front.reverse, by simp, by simp⟩

theorem stripEnd_eq_none_iff {tail l : List α} : stripEnd tail l = none ↔ ¬ tail <:+ l := by
  rw [stripEnd, Option.map_eq_none_iff, stripStart_eq_none_iff, List.reverse_prefix]

theorem lookup_cons_eq_ite {β : Type} [DecidableEq α] (k a : α) (b : β) (l : List (α × β)) :
    ((a, b) :: l).lookup k = if k = a then some b else l.lookup k := by
  by_cases h : k = a
  · rw [if_pos h, h, List.lookup_cons_self]
  · have hk : (k == a) = false := beq_eq_false_iff_ne.2 h
    rw [List.lookup_cons, hk, if_neg h]

theorem lookup_eq_none_iff_not_mem {β : Type} {k : α} {l : List (α × β)} :
    l.lookup k = none ↔ k ∉ l.map (·.1) := by
  rw [List.lookup_eq_none_iff, List.mem_map]
  constructor
  · rintro h ⟨entry, hentry, rfl⟩
    exact bne_iff_ne.1 (h entry hentry) rfl
  · intro h entry hentry
    exact bne_iff_ne.2 fun heq => h ⟨entry, hentry, heq.symm⟩

end Lawful

theorem filter_nonempty_eq_none_iff {value : Option Text} :
    value.filter (· ≠ []) = none ↔ ∀ t, value = some t → t = [] := by
  simp

theorem filter_nonempty_eq_some_iff {value : Option Text} {t : Text} :
    value.filter (· ≠ []) = some t ↔ value = some t ∧ t ≠ [] := by
  simp [Option.filter_eq_some_iff]

end RuntimeLauncher
