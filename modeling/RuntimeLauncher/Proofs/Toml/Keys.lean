import Mathlib.Tactic
import RuntimeLauncher.Toml.Document

/-! No key stands twice in a table that is read from a document. -/
namespace RuntimeLauncher.Toml

namespace Table

def Distinct (table : Table) : Prop := (table.map (·.1)).Nodup

theorem Distinct.append_of_lookup {table : Table} (h : table.Distinct) {key : Text}
    (hkey : table.lookup key = none) (value : Value) : Distinct (table ++ [(key, value)]) := by
  have hnew := lookup_eq_none_iff_not_mem.1 hkey
  unfold Distinct
  rw [List.map_append, List.nodup_append]
  refine ⟨h, by simp, fun a ha b hb => ?_⟩
  obtain rfl : b = key := by simpa using hb
  exact fun heq => hnew (heq ▸ ha)

@[simp] theorem map_fst_replace (table : Table) (key : Text) (value : Value) :
    (table.replace key value).map (·.1) = table.map (·.1) := by
  rw [replace, List.map_map]
  refine List.map_congr_left fun entry _ => ?_
  dsimp only [Function.comp_apply]
  split_ifs with h
  · exact h.symm
  · rfl

theorem Distinct.replace {table : Table} (h : table.Distinct) (key : Text) (value : Value) :
    Distinct (table.replace key value) := by
  unfold Distinct
  rwa [map_fst_replace]

/-- Changes further down replace values only, so the keys are distinct if the change at the end of
an empty path keeps them so. -/
theorem Distinct.updateAt {table changed : Table} (h : table.Distinct) {dotted : Bool}
    {change : TableForm → Table → Option Table} {path : List Text} {form : TableForm}
    (hchange : ∀ form changed, change form table = some changed → Distinct changed)
    (hupdate : table.updateAt dotted change path form = some changed) : changed.Distinct := by
  cases path with
  | nil => exact hchange form changed hupdate
  | cons key path =>
    rw [Table.updateAt] at hupdate
    split at hupdate
    · next hnone =>
      obtain ⟨inner, -, rfl⟩ := Option.map_eq_some_iff.1 hupdate
      exact h.append_of_lookup hnone _
    · split_ifs at hupdate
      obtain ⟨inner, -, rfl⟩ := Option.map_eq_some_iff.1 hupdate
      exact h.replace key _
    · split at hupdate
      · contradiction
      · obtain ⟨inner, -, rfl⟩ := Option.map_eq_some_iff.1 hupdate
        exact h.replace key _
    · contradiction

theorem Distinct.add {table changed : Table} (h : table.Distinct) {key : Text} {value : Value}
    (hadd : table.add key value = some changed) : changed.Distinct := by
  unfold Table.add at hadd
  split at hadd
  · next hnone => exact Option.some.inj hadd ▸ h.append_of_lookup hnone value
  · contradiction

theorem Distinct.assign {table changed : Table} (h : table.Distinct) {path : List Text}
    {value : Value} {form : TableForm} (hassign : table.assign path value form = some changed) :
    changed.Distinct := by
  unfold Table.assign at hassign
  split at hassign
  · contradiction
  · refine h.updateAt (fun form changed hchange => ?_) hassign
    split_ifs at hchange
    exact h.add hchange

theorem Distinct.openTable {root changed : Table} (h : root.Distinct) {path : List Text}
    (hopen : root.openTable path = some changed) : changed.Distinct := by
  unfold Table.openTable at hopen
  split at hopen
  · contradiction
  · next key _ =>
    refine h.updateAt (fun form changed hchange => ?_) hopen
    split at hchange
    · next hnone => exact Option.some.inj hchange ▸ h.append_of_lookup hnone _
    · -- the table that moves behind the others leaves its key free
      rw [← Option.some.inj hchange]
      have hothers : Distinct (root.filter (·.1 ≠ key)) := h.sublist (List.filter_sublist.map _)
      refine hothers.append_of_lookup (lookup_eq_none_iff_not_mem.2 fun hmem => ?_) _
      obtain ⟨entry, hentry, hkey⟩ := List.mem_map.1 hmem
      exact absurd hkey (by simpa using List.of_mem_filter hentry)
    · contradiction

theorem Distinct.openElement {root changed : Table} (h : root.Distinct) {path : List Text}
    (hopen : root.openElement path = some changed) : changed.Distinct := by
  unfold Table.openElement at hopen
  split at hopen
  · contradiction
  · next key _ =>
    refine h.updateAt (fun form changed hchange => ?_) hopen
    split at hchange
    · next hnone => exact Option.some.inj hchange ▸ h.append_of_lookup hnone _
    · exact Option.some.inj hchange ▸ h.replace key _
    · contradiction

theorem map_fst_strings? {table : Table} {entries : List (Text × Text)}
    (h : table.strings? = some entries) : entries.map (·.1) = table.map (·.1) := by
  unfold strings? at h
  induction table generalizing entries with
  | nil =>
    obtain rfl := Option.some.inj h
    rfl
  | cons entry table ih =>
    rw [List.mapM_cons] at h
    obtain ⟨first, hfirst, h⟩ := Option.bind_eq_some_iff.1 h
    obtain ⟨others, hothers, h⟩ := Option.bind_eq_some_iff.1 h
    obtain rfl := Option.some.inj h
    have hkey : first.1 = entry.1 := by
      split at hfirst
      · exact (congrArg Prod.fst (Option.some.inj hfirst)).symm
      · contradiction
    rw [List.map_cons, List.map_cons, hkey, ih hothers]

end Table

theorem Progress.distinct_statement? {p after : Progress} {t rest : Text} (h : p.root.Distinct)
    (hread : p.statement? t = some (after, rest)) : after.root.Distinct := by
  unfold Progress.statement? at hread
  split at hread
  · obtain ⟨⟨path, left⟩, -, hread⟩ := Option.bind_eq_some_iff.1 hread
    obtain ⟨root, hopen, hread⟩ := Option.bind_eq_some_iff.1 hread
    obtain ⟨end', -, hread⟩ := Option.bind_eq_some_iff.1 hread
    obtain ⟨rfl, -⟩ := Prod.mk.inj (Option.some.inj hread)
    exact h.openElement hopen
  · obtain ⟨⟨path, left⟩, -, hread⟩ := Option.bind_eq_some_iff.1 hread
    obtain ⟨root, hopen, hread⟩ := Option.bind_eq_some_iff.1 hread
    obtain ⟨end', -, hread⟩ := Option.bind_eq_some_iff.1 hread
    obtain ⟨rfl, -⟩ := Prod.mk.inj (Option.some.inj hread)
    exact h.openTable hopen
  · obtain ⟨⟨path, value, left⟩, -, hread⟩ := Option.bind_eq_some_iff.1 hread
    obtain ⟨assigned, hassign, hread⟩ := Option.bind_eq_some_iff.1 hread
    obtain ⟨rfl, -⟩ := Prod.mk.inj (Option.some.inj hread)
    obtain ⟨root, hupdate, rfl⟩ := Option.map_eq_some_iff.1 hassign
    exact h.updateAt (fun form changed hchange => h.assign hchange) hupdate

theorem Progress.distinct_lines? {fuel : Nat} {p : Progress} {t : Text} {table : Table}
    (h : p.root.Distinct) (hread : Progress.lines? fuel p t = some table) : table.Distinct := by
  induction fuel generalizing p t with
  | zero => contradiction
  | succ fuel ih =>
    rw [Progress.lines?] at hread
    split at hread
    · exact Option.some.inj hread ▸ h
    · split at hread
      · exact ih h hread
      · obtain ⟨⟨after, left⟩, hstatement, hread⟩ := Option.bind_eq_some_iff.1 hread
        obtain ⟨next, -, hread⟩ := Option.bind_eq_some_iff.1 hread
        exact ih (Progress.distinct_statement? h hstatement) hread

theorem distinct_parse {t : Text} {table : Table} (h : parse t = some table) : table.Distinct := by
  have hempty : (⟨[], []⟩ : Progress).root.Distinct := List.nodup_nil
  unfold parse at h
  exact Progress.distinct_lines? hempty h

end RuntimeLauncher.Toml
