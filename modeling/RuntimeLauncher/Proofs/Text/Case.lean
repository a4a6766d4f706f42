import Mathlib.Tactic
import RuntimeLauncher.Text.Characters

/-! Names in lower case: what is in lower case stays as it is, and marks are no letters. -/
namespace RuntimeLauncher

theorem isUpper_iff {c : Char} : c.isUpper = true ↔ 65 ≤ c.val.toNat ∧ c.val.toNat ≤ 90 := by
  change decide (c.val ≥ 65 ∧ c.val ≤ 90) = true ↔ _
  rw [decide_eq_true_eq, ge_iff_le, UInt32.le_iff_toNat_le, UInt32.le_iff_toNat_le]
  rfl

theorem isLower_iff {c : Char} : c.isLower = true ↔ 97 ≤ c.val.toNat ∧ c.val.toNat ≤ 122 := by
  change (decide (c.val ≥ 97) && decide (c.val ≤ 122)) = true ↔ _
  rw [Bool.and_eq_true, decide_eq_true_eq, decide_eq_true_eq, ge_iff_le, UInt32.le_iff_toNat_le,
    UInt32.le_iff_toNat_le]
  rfl

theorem val_toLower {c : Char} (h : c.isUpper = true) : c.toLower.val = c.val + 32 := by
  have hbounds : c.val ≥ 'A'.val ∧ c.val ≤ 'Z'.val := of_decide_eq_true h
  unfold Char.toLower
  rw [dif_pos hbounds]
  rfl

theorem isLower_toLower {c : Char} (h : c.isUpper = true) : c.toLower.isLower = true := by
  have hlower := val_toLower h
  have hdistance : (32 : UInt32).toNat = 32 := rfl
  rw [isUpper_iff] at h
  rw [isLower_iff, hlower, UInt32.toNat_add, hdistance, Nat.mod_eq_of_lt (by omega)]
  omega

theorem toLower_of_not_isUpper {c : Char} (h : ¬ c.isUpper = true) : c.toLower = c := by
  unfold Char.toLower
  exact dif_neg fun hbounds => h (decide_eq_true hbounds)

theorem not_isUpper_of_isLower {c : Char} (h : c.isLower = true) : ¬ c.isUpper = true := by
  rw [isLower_iff] at h
  rw [isUpper_iff]
  omega

theorem toUpper_of_not_isLower {c : Char} (h : c.isLower = false) : c.toUpper = c := by
  unfold Char.toUpper
  refine dif_neg fun hbounds => ?_
  have hlower : c.isLower = true := by
    rw [isLower_iff]
    exact ⟨UInt32.le_iff_toNat_le.1 hbounds.1, UInt32.le_iff_toNat_le.1 hbounds.2⟩
  rw [h] at hlower
  contradiction

theorem toUpper_toLower {c : Char} (h : c.isUpper = true) : c.toLower.toUpper = c := by
  have hlower := isLower_iff.1 (isLower_toLower h)
  have hbounds : c.toLower.val ≥ 'a'.val ∧ c.toLower.val ≤ 'z'.val :=
    ⟨UInt32.le_iff_toNat_le.2 hlower.1, UInt32.le_iff_toNat_le.2 hlower.2⟩
  have hdistance : (32 : UInt32) + ('A'.val - 'a'.val) = 0 := rfl
  apply Char.ext
  unfold Char.toUpper
  rw [dif_pos hbounds]
  change c.toLower.val + ('A'.val - 'a'.val) = c.val
  rw [val_toLower h, UInt32.add_assoc, hdistance, UInt32.add_zero]

/-- A name in lower case has small letters where the name has capitals, and else the same characters
up to the Kelvin sign. -/
theorem lowerName_cases (c : Char) :
    (c = '\u212a' ∧ lowerName c = 'k') ∨ (c.isUpper = true ∧ lowerName c = c.toLower) ∨
      ¬ c.isUpper = true ∧ lowerName c = c := by
  unfold lowerName
  by_cases hkelvin : c = '\u212a'
  · exact .inl ⟨hkelvin, if_pos hkelvin⟩
  · rw [if_neg hkelvin]
    by_cases hupper : c.isUpper = true
    · exact .inr (.inl ⟨hupper, rfl⟩)
    · exact .inr (.inr ⟨hupper, toLower_of_not_isUpper hupper⟩)

theorem lowerName_of_isLower {c : Char} (h : c.isLower = true) : lowerName c = c := by
  have hkelvin : c ≠ '\u212a' := by
    rintro rfl
    exact absurd h (by decide)
  rw [lowerName, if_neg hkelvin, toLower_of_not_isUpper (not_isUpper_of_isLower h)]

@[simp] theorem lowerName_lowerName (c : Char) : lowerName (lowerName c) = lowerName c := by
  rcases lowerName_cases c with ⟨-, hk⟩ | ⟨hupper, hlower⟩ | ⟨-, hsame⟩
  · rw [hk]
    exact lowerName_of_isLower (by decide)
  · rw [hlower]
    exact lowerName_of_isLower (isLower_toLower hupper)
  · rw [hsame, hsame]

/-- Of the capital letters that make one small letter, all but the Kelvin sign are the same. -/
theorem toUpper_lowerName {c : Char} (h : c.isLower = false) (hk : lowerName c ≠ 'k') :
    (lowerName c).toUpper = c := by
  rcases lowerName_cases c with ⟨-, hkelvin⟩ | ⟨hupper, hlower⟩ | ⟨-, hsame⟩
  · contradiction
  · rw [hlower, toUpper_toLower hupper]
  · rw [hsame, toUpper_of_not_isLower h]

/-- A character that is no small letter is the lower case of itself only. -/
theorem lowerName_eq_iff {c mark : Char} (hlower : mark.isLower = false)
    (hsame : lowerName mark = mark) : lowerName c = mark ↔ c = mark := by
  constructor
  · intro h
    rcases lowerName_cases c with ⟨-, hk⟩ | ⟨hupper, hsmall⟩ | ⟨-, heq⟩
    · rw [← h, hk] at hlower
      exact absurd hlower (by decide)
    · rw [← h, hsmall, isLower_toLower hupper] at hlower
      contradiction
    · exact heq.symm.trans h
  · rintro rfl
    exact hsame

namespace Text

@[simp] theorem toLowerName_toLowerName (t : Text) :
    toLowerName (toLowerName t) = toLowerName t := by
  unfold toLowerName
  rw [List.map_map]
  exact List.map_congr_left fun c _ => lowerName_lowerName c

theorem toLowerName_append (s t : Text) : toLowerName (s ++ t) = toLowerName s ++ toLowerName t :=
  List.map_append

theorem mem_toLowerName_iff (t : Text) (mark : Char) (hlower : mark.isLower = false)
    (hsame : lowerName mark = mark) : mark ∈ toLowerName t ↔ mark ∈ t := by
  unfold toLowerName
  rw [List.mem_map]
  constructor
  · rintro ⟨c, hc, heq⟩
    rwa [(lowerName_eq_iff hlower hsame).1 heq] at hc
  · intro h
    exact ⟨mark, h, hsame⟩

/-- Text without small letters. -/
def Capital (t : Text) : Prop := ∀ c ∈ t, c.isLower = false

instance (t : Text) : Decidable (Capital t) :=
  decidable_of_iff ((t.all fun c => !c.isLower) = true) (by simp [Capital])

theorem map_toUpper_toLowerName {t : Text} (h : Capital t) (hk : 'k' ∉ toLowerName t) :
    (toLowerName t).map Char.toUpper = t := by
  unfold toLowerName at hk ⊢
  rw [List.map_map]
  refine (List.map_congr_left fun c hc => ?_).trans (List.map_id t)
  exact toUpper_lowerName (h c hc) fun heq => hk (heq ▸ List.mem_map_of_mem hc)

/-- A name in capitals is known by its lower case, if no `k` is in that. -/
theorem eq_of_toLowerName_eq {t u : Text} (ht : Capital t) (hu : Capital u)
    (hk : 'k' ∉ toLowerName u) (h : toLowerName t = toLowerName u) : t = u := by
  rw [← map_toUpper_toLowerName hu hk, ← h, map_toUpper_toLowerName ht (h ▸ hk)]

end Text

end RuntimeLauncher
