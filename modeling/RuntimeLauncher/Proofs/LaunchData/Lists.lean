import Mathlib.Tactic
import RuntimeLauncher.LaunchData.Basic

/-! List values: the items of a value joined again are the value, and which items come back from the
value that they make. -/
namespace RuntimeLauncher

namespace Items

/-- Items that a reader can tell apart. The marker shares its first and last character, so that one
may also begin in an item that ends with the first two. -/
structure Separable (items : List Text) : Prop where
  unmarked : ∀ item ∈ items, ¬ separator <:+: item
  ended : ∀ item ∈ items.dropLast, ¬ ['*', '~'] <:+ item

theorem separator_eq : separator = ['*', '~', '*'] := rfl

@[simp] theorem join_singleton (item : Text) : join [item] = item := List.intercalate_singleton

theorem join_cons {items : List Text} (h : items ≠ []) (item : Text) :
    join (item :: items) = item ++ separator ++ join items := by
  cases items with
  | nil => contradiction
  | cons next rest => exact List.intercalate_cons_cons

theorem join_ne_nil {items : List Text} (h : items ≠ []) (hempty : items ≠ [[]]) :
    join items ≠ [] := by
  cases items with
  | nil => contradiction
  | cons item rest =>
    cases rest with
    | nil =>
      rw [join_singleton]
      intro heq
      exact hempty (by rw [heq])
    | cons next rest =>
      rw [join_cons (List.cons_ne_nil next rest)]
      simp [separator]

theorem split_ne_nil (t : Text) : split t ≠ [] := by
  fun_induction split t with
  | case1 => simp
  | case2 rest ih => simp
  | case3 c rest hmarker ih => simpa [List.modifyHead_eq_nil_iff] using ih

theorem not_prefix_of_not_marker {c : Char} {rest : Text}
    (h : ∀ tail, c = '*' → rest = '~' :: '*' :: tail → False) : ¬ separator <+: c :: rest := by
  rintro ⟨tail, htail⟩
  obtain ⟨hc, hrest⟩ := List.cons.inj htail
  exact h tail hc.symm hrest.symm

theorem split_cons_of_not_start {c : Char} {rest : Text} (h : ¬ separator <+: c :: rest) :
    split (c :: rest) = (split rest).modifyHead (c :: ·) := by
  rw [split]
  intro tail hc hrest
  exact h ⟨tail, by rw [hc, hrest]; rfl⟩

/-- Splitting loses nothing. -/
theorem join_split (t : Text) : join (split t) = t := by
  fun_induction split t with
  | case1 => rfl
  | case2 rest ih =>
    rw [join_cons (split_ne_nil rest), ih]
    rfl
  | case3 c rest hmarker ih =>
    cases hsplit : split rest with
    | nil => exact absurd hsplit (split_ne_nil rest)
    | cons item items =>
      rw [hsplit] at ih
      rw [List.modifyHead_cons]
      cases items with
      | nil =>
        rw [join_singleton] at ih ⊢
        rw [ih]
      | cons next items =>
        rw [join_cons (List.cons_ne_nil next items)] at ih ⊢
        rw [← ih, List.cons_append, List.cons_append]

theorem prefix_join (item : Text) (items : List Text) : item <+: join (item :: items) := by
  cases items with
  | nil => rw [join_singleton]
  | cons next rest =>
    rw [join_cons (List.cons_ne_nil next rest), List.append_assoc]
    exact List.prefix_append item _

/-- The markers that a reader finds from left to right are all there are. -/
theorem separable_split (t : Text) : Separable (split t) := by
  fun_induction split t with
  | case1 =>
    refine ⟨?_, by simp⟩
    simp [separator]
  | case2 rest ih =>
    constructor
    · intro item hitem
      rcases List.mem_cons.1 hitem with rfl | hitem
      · simp [separator]
      · exact ih.unmarked item hitem
    · intro item hitem
      rw [List.dropLast_cons_of_ne_nil (split_ne_nil rest)] at hitem
      rcases List.mem_cons.1 hitem with rfl | hitem
      · simp
      · exact ih.ended item hitem
  | case3 c rest hmarker ih =>
    have hnone : ¬ separator <+: c :: rest := not_prefix_of_not_marker hmarker
    have hrest := join_split rest
    cases hsplit : split rest with
    | nil => exact absurd hsplit (split_ne_nil rest)
    | cons item items =>
      rw [hsplit] at ih hrest
      rw [List.modifyHead_cons]
      have hfront : c :: item <+: c :: rest := by
        rw [← hrest]
        exact (List.prefix_cons_inj c).2 (prefix_join item items)
      constructor
      · intro longer hlonger
        rcases List.mem_cons.1 hlonger with rfl | hlonger
        · intro hinfix
          rcases List.infix_cons_iff.1 hinfix with hstart | hinside
          · exact hnone (hstart.trans hfront)
          · exact ih.unmarked item List.mem_cons_self hinside
        · exact ih.unmarked longer (List.mem_cons_of_mem item hlonger)
      · intro longer hlonger
        cases items with
        | nil => simp at hlonger
        | cons next items =>
          rw [List.dropLast_cons_of_ne_nil (List.cons_ne_nil next items)] at hlonger
          rcases List.mem_cons.1 hlonger with rfl | hlonger
          · intro hsuffix
            rcases List.suffix_cons_iff.1 hsuffix with heq | hinside
            · -- an item `*~` before a marker would make the marker begin at its `*`
              obtain ⟨rfl, rfl⟩ := List.cons.inj heq
              apply hnone
              rw [← hrest, join_cons (List.cons_ne_nil next items)]
              exact ⟨['~', '*'] ++ join (next :: items), rfl⟩
            · exact ih.ended item (by simp) hinside
          · apply ih.ended longer
            rw [List.dropLast_cons_of_ne_nil (List.cons_ne_nil next items)]
            exact List.mem_cons_of_mem item hlonger

theorem split_of_unmarked {item : Text} (h : ¬ separator <:+: item) : split item = [item] := by
  induction item with
  | nil => rfl
  | cons c item ih =>
    have hstart : ¬ separator <+: c :: item := fun hfront => h hfront.isInfix
    have hinside : ¬ separator <:+: item := fun hinfix => h (List.infix_cons hinfix)
    rw [split_cons_of_not_start hstart, ih hinside, List.modifyHead_cons]

theorem split_append_separator {item : Text} (h : ¬ separator <:+: item)
    (hend : ¬ ['*', '~'] <:+ item) (rest : Text) :
    split (item ++ separator ++ rest) = item :: split rest := by
  induction item with
  | nil => rfl
  | cons c item ih =>
    have hinside : ¬ separator <:+: item := fun hinfix => h (List.infix_cons hinfix)
    have hinsideEnd : ¬ ['*', '~'] <:+ item := fun hsuffix =>
      hend (hsuffix.trans (List.suffix_cons c item))
    have hstart : ¬ separator <+: c :: (item ++ separator ++ rest) := by
      intro hfront
      simp only [separator_eq] at h hfront
      -- the item holds one, two or all characters of a marker that begins with it
      match item with
      | [] => simp at hfront
      | [d] =>
        simp only [List.cons_append, List.cons_prefix_cons] at hfront
        obtain ⟨rfl, rfl, -⟩ := hfront
        exact hend (List.suffix_refl _)
      | d :: e :: item =>
        simp only [List.cons_append, List.cons_prefix_cons] at hfront
        obtain ⟨rfl, rfl, rfl, -⟩ := hfront
        exact h ⟨[], item, rfl⟩
    rw [List.cons_append, List.cons_append, split_cons_of_not_start hstart,
      ih hinside hinsideEnd, List.modifyHead_cons]

theorem split_join {items : List Text} (hne : items ≠ []) (h : Separable items) :
    split (join items) = items := by
  induction items with
  | nil => contradiction
  | cons item rest ih =>
    have hitem := h.unmarked item List.mem_cons_self
    cases rest with
    | nil => rw [join_singleton, split_of_unmarked hitem]
    | cons next rest =>
      have hdrop : (item :: next :: rest).dropLast = item :: (next :: rest).dropLast :=
        List.dropLast_cons_of_ne_nil (List.cons_ne_nil next rest)
      have hend : ¬ ['*', '~'] <:+ item := h.ended item (by rw [hdrop]; exact List.mem_cons_self)
      have hrest : Separable (next :: rest) := by
        constructor
        · intro other hother
          exact h.unmarked other (List.mem_cons_of_mem item hother)
        · intro other hother
          apply h.ended other
          rw [hdrop]
          exact List.mem_cons_of_mem item hother
      rw [join_cons (List.cons_ne_nil next rest), split_append_separator hitem hend,
        ih (List.cons_ne_nil next rest) hrest]

theorem split_join_iff {items : List Text} (hne : items ≠ []) :
    split (join items) = items ↔ Separable items := by
  constructor
  · intro h
    have hsplit := separable_split (join items)
    rwa [h] at hsplit
  · exact split_join hne

end Items

namespace LaunchData

theorem list_of_ne_nil {data : LaunchData} {key value : Text} (h : data.get? key = some value)
    (hne : value ≠ []) : data.list key = Items.split value := by
  unfold list
  rw [h]
  cases value with
  | nil => contradiction
  | cons c value => rfl

/-- A value is its items with markers between them, and there are no items where there is no value.
Items that are stored come back exactly when they can be told apart; a single empty item makes no
value. -/
theorem list_items (data : LaunchData) (key : Text) :
    (data.get? key = none ∨ data.get? key = some [] → data.list key = []) ∧
    (∀ value, data.get? key = some value → value ≠ [] →
      Items.join (data.list key) = value ∧
        ∀ item ∈ data.list key, ¬ Items.separator <:+: item) ∧
    ∀ items, items ≠ [] → items ≠ [[]] → data.get? key = some (Items.join items) →
      (data.list key = items ↔
        (∀ item ∈ items, ¬ Items.separator <:+: item) ∧
          ∀ item ∈ items.dropLast, ¬ ['*', '~'] <:+ item) := by
  refine ⟨?_, ?_, ?_⟩
  · intro h
    unfold list
    rcases h with hnone | hempty
    · rw [hnone]
    · rw [hempty]
  · intro value h hne
    rw [list_of_ne_nil h hne]
    exact ⟨Items.join_split value, (Items.separable_split value).unmarked⟩
  · intro items hne hempty h
    rw [list_of_ne_nil h (Items.join_ne_nil hne hempty), Items.split_join_iff hne]
    exact ⟨fun hitems => ⟨hitems.unmarked, hitems.ended⟩, fun hitems => ⟨hitems.1, hitems.2⟩⟩

/-- Of `a*~` and `b` the marker in between takes the last two characters of the first item with
it. -/
def straddledData : LaunchData :=
  ofList [("dotnet_args".toList, Items.join [['a', '*', '~'], ['b']])]

theorem list_items_straddled :
    straddledData.get? "dotnet_args".toList = some "a*~*~*b".toList ∧
    Items.join (straddledData.list "dotnet_args".toList) = "a*~*~*b".toList ∧
    straddledData.list "dotnet_args".toList = [['a'], ['~', '*', 'b']] ∧
    straddledData.list "dotnet_args".toList ≠ [['a', '*', '~'], ['b']] := by
  have hvalue : straddledData.get? "dotnet_args".toList = some "a*~*~*b".toList := rfl
  obtain ⟨-, hread, hstored⟩ := list_items straddledData "dotnet_args".toList
  refine ⟨hvalue, (hread _ hvalue (by decide)).1, ?_, ?_⟩
  · exact (hstored [['a'], ['~', '*', 'b']] (by decide) (by decide) hvalue).2
      ⟨by decide, by decide⟩
  · intro hsame
    have hends := ((hstored [['a', '*', '~'], ['b']] (by decide) (by decide) hvalue).1 hsame).2
    exact hends ['a', '*', '~'] (by decide) (by decide)

end LaunchData

end RuntimeLauncher
