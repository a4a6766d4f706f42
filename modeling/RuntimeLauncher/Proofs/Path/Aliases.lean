import RuntimeLauncher.Proofs.Path.Extensions

/-! Which paths are taken to hold a short alias, as `PROGRA~1` is one: a component counts by its
first `~` alone. -/
namespace RuntimeLauncher.Path

/-- A component stands between two separators, or between one and an end of the path, and has none
in it. It may be empty. -/
structure HasComponent (p c : Path) : Prop where
  bare : Bare c
  place : ∃ before after, p = before ++ c ++ after ∧
    (∀ mark ∈ before.getLast?, isSeparator mark = true) ∧
    ∀ mark ∈ after.head?, isSeparator mark = true

/-- Somewhere in the text a digit stands right behind a `~`. -/
def Numbered (t : Text) : Prop :=
  ∃ front digit back, t = front ++ '~' :: digit :: back ∧ digit.isDigit = true

/-- A digit stands right behind the first `~` of the text. -/
def NumberedFirst (t : Text) : Prop :=
  ∃ front digit back, t = front ++ '~' :: digit :: back ∧ '~' ∉ front ∧ digit.isDigit = true

/-- No digit stands behind the first `~`, but one behind a later `~`. -/
def NumberedLater (t : Text) : Prop :=
  ∃ front back, t = front ++ '~' :: back ∧ '~' ∉ front ∧ headIs Char.isDigit back = false ∧
    Numbered back

theorem NumberedFirst.numbered {t : Text} (h : NumberedFirst t) : Numbered t := by
  obtain ⟨front, digit, back, hparts, -, hdigit⟩ := h
  exact ⟨front, digit, back, hparts, hdigit⟩

theorem numbered_iff {t : Text} : Numbered t ↔ NumberedFirst t ∨ NumberedLater t := by
  constructor
  · rintro ⟨before, digit, after, rfl, hdigit⟩
    by_cases hmem : '~' ∈ before
    · obtain ⟨front, gap, rfl, hfront⟩ := List.eq_append_cons_of_mem hmem
      have hparts : (front ++ '~' :: gap) ++ '~' :: digit :: after =
          front ++ '~' :: (gap ++ '~' :: digit :: after) := by simp
      rw [hparts]
      have hlater : Numbered (gap ++ '~' :: digit :: after) := ⟨gap, digit, after, rfl, hdigit⟩
      generalize gap ++ '~' :: digit :: after = back at hlater
      -- what stands behind the first `~` decides, whatever comes later
      cases hhead : headIs Char.isDigit back with
      | false => exact .inr ⟨front, back, rfl, hfront, hhead, hlater⟩
      | true =>
        cases back with
        | nil => contradiction
        | cons next back => exact .inl ⟨front, next, back, rfl, hfront, hhead⟩
    · exact .inl ⟨before, digit, after, rfl, hmem, hdigit⟩
  · rintro (hfirst | ⟨front, back, rfl, -, -, before, digit, after, rfl, hdigit⟩)
    · exact hfirst.numbered
    · exact ⟨front ++ '~' :: before, digit, after, by simp, hdigit⟩

theorem mem_splitOnP_iff {p c : Path} : c ∈ p.splitOnP isSeparator ↔ HasComponent p c := by
  constructor
  · intro h
    induction p using kindInduction isSeparator with
    | whole p hplain =>
      rw [List.splitOnP_eq_singleton hplain, List.mem_singleton] at h
      subst h
      exact ⟨bare_iff.2 hplain, [], [], by simp, by simp, by simp⟩
    | cut left mark right hleft hmark ih =>
      rw [List.splitOnP_append_cons_of_forall_mem hleft mark hmark] at h
      rcases List.mem_cons.1 h with rfl | hright
      · exact ⟨bare_iff.2 hleft, [], mark :: right, by simp, by simp, by simpa using hmark⟩
      · obtain ⟨hbare, before, after, rfl, hbefore, hafter⟩ := ih hright
        refine ⟨hbare, left ++ mark :: before, after, by simp, ?_, hafter⟩
        rw [List.getLast?_append_cons, List.getLast?_cons]
        cases hlast : before.getLast? with
        | none => simpa [hlast] using hmark
        | some last => simpa [hlast] using hbefore last hlast
  · rintro ⟨hbare, before, after, rfl, hbefore, hafter⟩
    have hplain := bare_iff.1 hbare
    have hrest : c ∈ (c ++ after).splitOnP isSeparator := by
      cases after with
      | nil => rw [List.append_nil, List.splitOnP_eq_singleton hplain, List.mem_singleton]
      | cons mark back =>
        rw [List.splitOnP_append_cons_of_forall_mem hplain mark (hafter mark rfl)]
        exact List.mem_cons_self
    rcases List.eq_nil_or_concat before with rfl | ⟨front, mark, rfl⟩
    · simpa using hrest
    · have hmark : isSeparator mark = true := hbefore mark (by simp)
      have hparts : front.concat mark ++ c ++ after = front ++ mark :: (c ++ after) := by simp
      rw [hparts, List.splitOnP_append_cons front (c ++ after) hmark]
      exact List.mem_append_right _ hrest

theorem isShortAlias_iff {name : Text} : isShortAlias name = true ↔ NumberedFirst name := by
  unfold isShortAlias
  constructor
  · intro h
    split at h
    · next front next back hcut =>
      obtain ⟨hparts, hfront⟩ := cutFirst_eq_some_iff.1 hcut
      exact ⟨front, next, back, hparts, hfront, h⟩
    · contradiction
  · rintro ⟨front, digit, back, rfl, hfront, hdigit⟩
    rw [cutFirst_append_cons hfront]
    exact hdigit

theorem hasShortAlias_iff {p : Path} :
    hasShortAlias p = true ↔ ∃ c, HasComponent p c ∧ NumberedFirst c := by
  rw [hasShortAlias, List.any_eq_true]
  simp only [mem_splitOnP_iff, isShortAlias_iff]

/-- A path is taken to hold an alias if a digit stands behind the first `~` of a component. A
component with the digit behind a later `~` is missed, unless another component is found: then, and
only then, a `~` with a digit behind it is not enough. -/
theorem hasShortAlias_components (p : Path) :
    (hasShortAlias p = true ↔ ∃ c, HasComponent p c ∧ NumberedFirst c) ∧
    (¬ (hasShortAlias p = true ↔ ∃ c, HasComponent p c ∧ Numbered c) ↔
      (∃ c, HasComponent p c ∧ NumberedLater c) ∧ ∀ c, HasComponent p c → ¬ NumberedFirst c) := by
  refine ⟨hasShortAlias_iff, ?_⟩
  rw [hasShortAlias_iff]
  constructor
  · intro hdiffer
    have hnone : ∀ c, HasComponent p c → ¬ NumberedFirst c := by
      intro c hc hfirst
      exact hdiffer (iff_of_true ⟨c, hc, hfirst⟩ ⟨c, hc, hfirst.numbered⟩)
    refine ⟨?_, hnone⟩
    by_contra hlater
    refine hdiffer (exists_congr fun c => and_congr_right fun hc => ?_)
    rw [numbered_iff]
    exact (or_iff_left fun h => hlater ⟨c, hc, h⟩).symm
  · rintro ⟨⟨c, hc, hlater⟩, hnone⟩ hsame
    obtain ⟨c', hc', hfirst⟩ := hsame.2 ⟨c, hc, numbered_iff.2 (.inr hlater)⟩
    exact hnone c' hc' hfirst

/-- The alias of a folder whose name has a `~` of its own is missed. -/
theorem hasShortAlias_missed :
    let p := "C:\\A~BLON~1\\App.exe".toList
    HasComponent p "A~BLON~1".toList ∧ Numbered "A~BLON~1".toList ∧ hasShortAlias p = false ∧
      ¬ (hasShortAlias p = true ↔ ∃ c, HasComponent p c ∧ Numbered c) := by
  intro p
  have hmark {mark : Char} (h : some '\\' = some mark) : isSeparator mark = true := by
    obtain rfl := Option.some.inj h
    rfl
  have hcomponent : HasComponent p "A~BLON~1".toList :=
    ⟨⟨by decide, by decide⟩, "C:\\".toList, "\\App.exe".toList, rfl, fun _ h => hmark h,
      fun _ h => hmark h⟩
  have hnumbered : Numbered "A~BLON~1".toList := ⟨"A~BLON".toList, '1', [], rfl, rfl⟩
  have hmissed : hasShortAlias p = false := by decide
  refine ⟨hcomponent, hnumbered, hmissed, fun hsame => ?_⟩
  have hfound : hasShortAlias p = true := hsame.2 ⟨_, hcomponent, hnumbered⟩
  exact Bool.false_ne_true (hmissed.symm.trans hfound)

end RuntimeLauncher.Path
