import Mathlib.Tactic
import RuntimeLauncher.LaunchData.Basic

/-! Setting many values at once: what is found afterwards, and which data results. -/
namespace RuntimeLauncher.LaunchData

@[simp] theorem insertMany_nil (data : LaunchData) : data.insertMany [] = data := rfl

@[simp] theorem insertMany_cons (data : LaunchData) (pair : Text × Text)
    (pairs : List (Text × Text)) :
    data.insertMany (pair :: pairs) = (data.insert pair.1 pair.2).insertMany pairs := rfl

/-- The last of the pairs with a key counts, and without one the data from before. -/
theorem get?_insertMany (data : LaunchData) (pairs : List (Text × Text)) (k : Text) :
    (data.insertMany pairs).get? k = (pairs.reverse.lookup k).or (data.get? k) := by
  induction pairs generalizing data with
  | nil => rfl
  | cons pair pairs ih =>
    rw [insertMany_cons, ih, get?_insert, List.reverse_cons, List.lookup_append, Option.or_assoc,
      lookup_cons_eq_ite, List.lookup_nil]
    split <;> rfl

theorem get?_ofList (pairs : List (Text × Text)) (k : Text) :
    (ofList pairs).get? k = pairs.reverse.lookup k := by
  rw [ofList, get?_insertMany, get?_empty, Option.or_none]

/-- The last of some pairs with a key has this value. -/
def LastPair (pairs : List (Text × Text)) (key value : Text) : Prop :=
  ∃ before after, pairs = before ++ (key, value) :: after ∧ ∀ later ∈ after, later.1 ≠ key

theorem lookup_reverse_eq_some_iff {pairs : List (Text × Text)} {key value : Text} :
    pairs.reverse.lookup key = some value ↔ LastPair pairs key value := by
  rw [List.lookup_eq_some_iff]
  constructor
  · rintro ⟨after, before, hpairs, hafter⟩
    refine ⟨before.reverse, after.reverse, ?_, fun later hlater => ?_⟩
    · simpa using congrArg List.reverse hpairs
    · exact (bne_iff_ne.1 (hafter later (List.mem_reverse.1 hlater))).symm
  · rintro ⟨before, after, rfl, hafter⟩
    refine ⟨after.reverse, before.reverse, by simp, fun later hlater => ?_⟩
    exact bne_iff_ne.2 (hafter later (List.mem_reverse.1 hlater)).symm

theorem lookup_reverse_eq_none_iff {pairs : List (Text × Text)} {key : Text} :
    pairs.reverse.lookup key = none ↔ ∀ pair ∈ pairs, pair.1 ≠ key := by
  simp only [List.lookup_eq_none_iff, List.mem_reverse, bne_iff_ne, ne_comm]

/-- Pairs with distinct keys are found wherever they stand. -/
theorem lastPair_iff_mem {pairs : List (Text × Text)} (h : (pairs.map (·.1)).Nodup)
    {key value : Text} : LastPair pairs key value ↔ (key, value) ∈ pairs := by
  constructor
  · rintro ⟨before, after, rfl, -⟩
    exact List.mem_append_right _ List.mem_cons_self
  · intro hmem
    obtain ⟨before, after, rfl⟩ := List.append_of_mem hmem
    rw [List.map_append, List.map_cons, List.nodup_append, List.nodup_cons] at h
    refine ⟨before, after, rfl, fun later hlater heq => h.2.1.1 ?_⟩
    exact List.mem_map.2 ⟨later, hlater, heq⟩

theorem get?_insertMany_eq_some_iff {data : LaunchData} {pairs : List (Text × Text)}
    {key value : Text} :
    (data.insertMany pairs).get? key = some value ↔
      LastPair pairs key value ∨ (∀ pair ∈ pairs, pair.1 ≠ key) ∧ data.get? key = some value := by
  rw [get?_insertMany, Option.or_eq_some_iff, lookup_reverse_eq_some_iff,
    lookup_reverse_eq_none_iff]

theorem pairwise_keys (data : LaunchData) : data.keys.Pairwise (· < ·) :=
  List.pairwise_map.2 data.increasing

theorem nodup_keys (data : LaunchData) : data.keys.Nodup := by
  refine data.pairwise_keys.imp ?_
  rintro key _ hlt rfl
  exact List.lt_irrefl key hlt

/-- A key past all others goes to the end. -/
theorem insertEntry_of_forall_lt {key value : Text} {l : List (Text × Text)}
    (h : ∀ e ∈ l, e.1 < key) : insertEntry key value l = l ++ [(key, value)] := by
  induction l with
  | nil => rfl
  | cons e l ih =>
    obtain ⟨hlt, hl⟩ := List.forall_mem_cons.1 h
    have hne : key ≠ e.1 := fun heq => List.lt_irrefl key (heq ▸ hlt)
    rw [insertEntry, if_neg (List.lt_asymm hlt), if_neg hne, ih hl, List.cons_append]

theorem entries_insertMany {data : LaunchData} {pairs : List (Text × Text)}
    (h : (data.entries ++ pairs).Pairwise (·.1 < ·.1)) :
    (data.insertMany pairs).entries = data.entries ++ pairs := by
  induction pairs generalizing data with
  | nil => exact (List.append_nil _).symm
  | cons pair pairs ih =>
    have hlt : ∀ e ∈ data.entries, e.1 < pair.1 := fun e he =>
      (List.pairwise_append.1 h).2.2 e he pair List.mem_cons_self
    have hinsert : (data.insert pair.1 pair.2).entries = data.entries ++ [pair] :=
      insertEntry_of_forall_lt hlt
    rw [insertMany_cons, ih (by rwa [hinsert, List.append_assoc, List.singleton_append]), hinsert,
      List.append_assoc, List.singleton_append]

theorem ofList_entries (data : LaunchData) : ofList data.entries = data :=
  ext (@entries_insertMany empty _ data.increasing)

theorem mem_entries_iff {data : LaunchData} {key value : Text} :
    (key, value) ∈ data.entries ↔ data.get? key = some value := by
  have hlast : LastPair data.entries key value ↔ (key, value) ∈ data.entries :=
    lastPair_iff_mem data.nodup_keys
  rw [← hlast, ← lookup_reverse_eq_some_iff, ← get?_ofList, ofList_entries]

/-- Data is determined by the values of its keys. -/
theorem ext_get? {a b : LaunchData} (h : ∀ key, a.get? key = b.get? key) : a = b := by
  have hnodup (data : LaunchData) : data.entries.Nodup := data.nodup_keys.of_map
  have hmem (entry : Text × Text) : entry ∈ a.entries ↔ entry ∈ b.entries := by
    rw [mem_entries_iff, mem_entries_iff, h]
  have hperm := (List.perm_ext_iff_of_nodup (hnodup a) (hnodup b)).2 hmem
  apply ext
  exact hperm.eq_of_pairwise (fun _ _ _ _ hab hba => absurd hba (List.lt_asymm hab))
    a.increasing b.increasing

end RuntimeLauncher.LaunchData
