import RuntimeLauncher.Text.Basic

/-! Launch data: named values in the order of their names. A value may be a list, of items with
`*~*` between them. -/
namespace RuntimeLauncher

/-- Named values in strictly increasing order of their names. -/
structure LaunchData where
  entries : List (Text × Text)
  increasing : entries.Pairwise (·.1 < ·.1)

namespace LaunchData

/-- Sets one entry of a list in increasing order. -/
def insertEntry (key value : Text) : List (Text × Text) → List (Text × Text)
  | [] => [(key, value)]
  | (k, v) :: rest =>
    if key < k then (key, value) :: (k, v) :: rest
    else if key = k then (key, value) :: rest
    else (k, v) :: insertEntry key value rest

theorem mem_insertEntry {key value : Text} {l : List (Text × Text)} {e : Text × Text}
    (h : e ∈ insertEntry key value l) : e = (key, value) ∨ e ∈ l := by
  induction l with
  | nil => simpa [insertEntry] using h
  | cons a l ih =>
    obtain ⟨k, v⟩ := a
    simp only [insertEntry] at h
    split at h
    · simpa using h
    · split at h
      · rcases List.mem_cons.1 h with h | h
        · exact .inl h
        · exact .inr (List.mem_cons_of_mem _ h)
      · rcases List.mem_cons.1 h with h | h
        · exact .inr (h ▸ List.mem_cons_self)
        · exact (ih h).imp_right (List.mem_cons_of_mem _)

theorem lt_of_not_lt_of_ne {a b : Text} (h : ¬ a < b) (hne : a ≠ b) : b < a :=
  (List.le_iff_lt_or_eq.1 (List.not_lt.1 h)).resolve_right (Ne.symm hne)

theorem pairwise_insertEntry (key value : Text) {l : List (Text × Text)}
    (h : l.Pairwise (·.1 < ·.1)) : (insertEntry key value l).Pairwise (·.1 < ·.1) := by
  induction l with
  | nil => simp [insertEntry]
  | cons a l ih =>
    obtain ⟨k, v⟩ := a
    rw [List.pairwise_cons] at h
    simp only [insertEntry]
    split
    · next hlt =>
      refine List.pairwise_cons.2 ⟨fun e he => ?_, List.pairwise_cons.2 h⟩
      rcases List.mem_cons.1 he with rfl | he
      · exact hlt
      · exact List.lt_trans hlt (h.1 e he)
    · next hlt =>
      split
      · next heq =>
        subst heq
        exact List.pairwise_cons.2 h
      · next hne =>
        refine List.pairwise_cons.2 ⟨fun e he => ?_, ih h.2⟩
        rcases mem_insertEntry he with rfl | he
        · exact lt_of_not_lt_of_ne hlt hne
        · exact h.1 e he

def empty : LaunchData := ⟨[], .nil⟩

def insert (data : LaunchData) (key value : Text) : LaunchData :=
  ⟨insertEntry key value data.entries, pairwise_insertEntry key value data.increasing⟩

/-- Sets each pair in turn; the last value of a name stays. -/
def insertMany (data : LaunchData) (pairs : List (Text × Text)) : LaunchData :=
  pairs.foldl (fun data pair => data.insert pair.1 pair.2) data

def ofList (pairs : List (Text × Text)) : LaunchData := empty.insertMany pairs

def get? (data : LaunchData) (key : Text) : Option Text := data.entries.lookup key

def keys (data : LaunchData) : List Text := data.entries.map (·.1)

theorem lookup_insertEntry (key value k : Text) (l : List (Text × Text)) :
    (insertEntry key value l).lookup k = if k = key then some value else l.lookup k := by
  induction l with
  | nil => rw [insertEntry, lookup_cons_eq_ite]
  | cons a l ih =>
    obtain ⟨b, v⟩ := a
    simp only [insertEntry]
    split
    · rw [lookup_cons_eq_ite]
    · split
      · next heq =>
        rw [lookup_cons_eq_ite, lookup_cons_eq_ite, heq]
        split <;> rfl
      · next hne =>
        rw [lookup_cons_eq_ite, lookup_cons_eq_ite, ih]
        by_cases h : k = b
        · rw [if_pos h, if_pos h, if_neg fun hk => hne (hk.symm.trans h)]
        · rw [if_neg h, if_neg h]

@[simp] theorem get?_insert (data : LaunchData) (key value k : Text) :
    (data.insert key value).get? k = if k = key then some value else data.get? k :=
  lookup_insertEntry key value k data.entries

@[simp] theorem get?_empty (k : Text) : empty.get? k = none := rfl

@[ext] theorem ext {a b : LaunchData} (h : a.entries = b.entries) : a = b := by
  cases a
  cases b
  cases h
  rfl

instance : DecidableEq LaunchData := fun a b =>
  if h : a.entries = b.entries then isTrue (ext h) else isFalse fun hab => h (hab ▸ rfl)

end LaunchData

namespace Items

def separator : Text := "*~*".toList

/-- The items of a non-empty value, from left to right. -/
def split : Text → List Text
  | [] => [[]]
  | '*' :: '~' :: '*' :: rest => [] :: split rest
  | c :: rest => (split rest).modifyHead (c :: ·)

def join (items : List Text) : Text := separator.intercalate items

end Items

/-- The items of a list value. A missing or empty value has none. -/
def LaunchData.list (data : LaunchData) (key : Text) : List Text :=
  match data.get? key with
  | none => []
  | some [] => []
  | some value => Items.split value

end RuntimeLauncher
