import Mathlib.Tactic
import RuntimeLauncher.Environment
import RuntimeLauncher.Proofs.Steps

/-! Declared variables: which entries of a declaration can be read, and which one is named when not
all of them can. -/
namespace RuntimeLauncher.Assignments

/-- An entry that is more than nothing, and has no `=` or begins with it. -/
def Malformed (entry : Text) : Prop := entry ≠ [] ∧ ('=' ∉ entry ∨ entry.head? = some '=')

instance (entry : Text) : Decidable (Malformed entry) :=
  inferInstanceAs (Decidable (entry ≠ [] ∧ ('=' ∉ entry ∨ entry.head? = some '=')))

theorem not_malformed_nil : ¬ Malformed [] := fun h => h.1 rfl

theorem parseEntry_of_malformed {entry : Text} (h : Malformed entry) :
    parseEntry entry = .error entry := by
  obtain ⟨-, habsent | hfront⟩ := h
  · rw [parseEntry, cutFirst_eq_none_iff.2 habsent]
  · obtain ⟨rest, rfl⟩ := List.head?_eq_some_iff.1 hfront
    have hcut : cutFirst '=' ('=' :: rest) = some ([], rest) :=
      cutFirst_append_cons List.not_mem_nil rest
    rw [parseEntry, hcut]

theorem parseEntry_of_not_malformed {entry : Text} (hne : entry ≠ []) (h : ¬ Malformed entry) :
    ∃ pair, parseEntry entry = .ok pair := by
  cases hcut : cutFirst '=' entry with
  | none => exact absurd ⟨hne, .inl (cutFirst_eq_none_iff.1 hcut)⟩ h
  | some parts =>
    obtain ⟨name, value⟩ := parts
    cases name with
    | nil =>
      obtain ⟨rfl, -⟩ := cutFirst_eq_some_iff.1 hcut
      exact absurd ⟨hne, .inr rfl⟩ h
    | cons c name => exact ⟨(c :: name, value), by rw [parseEntry, hcut]⟩

/-- The entries are read one after the other, and the first malformed one ends that. -/
theorem mapM_parseEntry_eq_error_iff {segments : List Text} {entry : Text} :
    (segments.filter (· ≠ [])).mapM parseEntry = .error entry ↔
      segments.find? (Malformed ·) = some entry := by
  induction segments with
  | nil => simp
  | cons segment rest ih =>
    by_cases hempty : segment = []
    · subst hempty
      rw [List.filter_cons_of_neg (by simp), ih,
        List.find?_cons_of_neg (by simpa using not_malformed_nil)]
    rw [List.filter_cons_of_pos (by simpa using hempty), List.mapM_cons]
    by_cases hsegment : Malformed segment
    · have herror := parseEntry_of_malformed hsegment
      rw [herror, error_bind, List.find?_cons_of_pos (by simpa using hsegment), Except.error.injEq,
        Option.some.injEq]
    · obtain ⟨pair, hpair⟩ := parseEntry_of_not_malformed hempty hsegment
      rw [hpair, ok_bind, List.find?_cons_of_neg (by simpa using hsegment), ← ih, bind_eq_error_iff]
      simp

/-- A declaration is refused for the first malformed text between its semicolons. -/
theorem parse_eq_error_iff {raw entry : Text} :
    parse raw = .error entry ↔ (raw.splitOn ';').find? (Malformed ·) = some entry :=
  mapM_parseEntry_eq_error_iff

end RuntimeLauncher.Assignments
