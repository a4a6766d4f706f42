import Mathlib.Tactic
import RuntimeLauncher.Proofs.Text.Case
import RuntimeLauncher.Settings.Layers

/-! The names under which tables and variables set a field, and what layers hold under such a
name. -/
namespace RuntimeLauncher

namespace KeyPath

/-- A key with nothing that would lead on to a further step of a path. -/
structure Plain (key : Text) : Prop where
  noName : '.' ∉ key
  noIndex : '[' ∉ key

instance (key : Text) : Decidable (Plain key) :=
  decidable_of_iff ('.' ∉ key ∧ '[' ∉ key) ⟨fun h => ⟨h.1, h.2⟩, fun h => ⟨h.noName, h.noIndex⟩⟩

theorem plain_toLowerName_iff {key : Text} : Plain (Text.toLowerName key) ↔ Plain key := by
  have hname := Text.mem_toLowerName_iff key '.' (by decide) (by decide)
  have hindex := Text.mem_toLowerName_iff key '[' (by decide) (by decide)
  constructor
  · intro h
    exact ⟨fun hmem => h.noName (hname.2 hmem), fun hmem => h.noIndex (hindex.2 hmem)⟩
  · intro h
    exact ⟨fun hmem => h.noName (hname.1 hmem), fun hmem => h.noIndex (hindex.1 hmem)⟩

theorem Plain.of_append {front key : Text} (h : Plain (front ++ key)) : Plain key :=
  ⟨fun hmem => h.noName (List.mem_append_right front hmem),
    fun hmem => h.noIndex (List.mem_append_right front hmem)⟩

/-- A plain key is a name as a whole. -/
theorem root_of_plain {key : Text} (h : Plain key) : root key = (key, false) := by
  unfold root afterName?
  by_cases hhead : headIs isNameChar key = true
  · rw [if_pos hhead]
    dsimp only
    cases hrest : key.dropWhile isNameChar with
    | nil =>
      have hwhole := List.takeWhile_append_dropWhile (p := isNameChar) (l := key)
      rw [hrest, List.append_nil] at hwhole
      simp [areSteps, hwhole]
    | cons c rest =>
      have hmem : c ∈ key := by
        have hsuffix := List.dropWhile_suffix (p := isNameChar) (l := key)
        exact hsuffix.subset (by rw [hrest]; exact List.mem_cons_self)
      have hname : c ≠ '.' := by
        rintro rfl
        exact h.noName hmem
      have hindex : c ≠ '[' := by
        rintro rfl
        exact h.noIndex hmem
      simp [areSteps, hname, hindex]
  · rw [if_neg hhead]

end KeyPath

section Lookup
variable {β : Type} {l : List (Text × β)}

theorem lookup_reverse_of_nodup (h : (l.map (·.1)).Nodup) (k : Text) :
    l.reverse.lookup k = l.lookup k := by
  induction l with
  | nil => rfl
  | cons a l ih =>
    rw [List.map_cons, List.nodup_cons] at h
    rw [List.reverse_cons, List.lookup_append, ih h.2, lookup_cons_eq_ite, lookup_cons_eq_ite,
      List.lookup_nil]
    by_cases hk : k = a.1
    · rw [if_pos hk, if_pos hk, lookup_eq_none_iff_not_mem.2 (hk ▸ h.1), Option.none_or]
    · rw [if_neg hk, if_neg hk, Option.or_none]

theorem lookup_filter_of_nodup (h : (l.map (·.1)).Nodup) (keep : β → Bool) (k : Text) :
    (l.filter (keep ·.2)).lookup k = (l.lookup k).filter keep := by
  induction l with
  | nil => rfl
  | cons a l ih =>
    rw [List.map_cons, List.nodup_cons] at h
    rw [List.filter_cons, lookup_cons_eq_ite]
    by_cases hk : k = a.1
    · have hnone : l.lookup k = none := lookup_eq_none_iff_not_mem.2 (hk ▸ h.1)
      rw [if_pos hk]
      by_cases hkeep : keep a.2 = true
      · rw [if_pos hkeep, lookup_cons_eq_ite, if_pos hk, Option.filter_some, if_pos hkeep]
      · rw [if_neg hkeep, ih h.2, hnone, Option.filter_some, if_neg hkeep, Option.filter_none]
    · rw [if_neg hk, ← ih h.2]
      by_cases hkeep : keep a.2 = true
      · rw [if_pos hkeep, lookup_cons_eq_ite, if_neg hk]
      · rw [if_neg hkeep]

theorem lookup_eq_find? (l : List (Text × β)) (k : Text) :
    l.lookup k = (l.find? fun pair => pair.1 = k).map (·.2) := by
  induction l with
  | nil => rfl
  | cons pair l ih =>
    rw [lookup_cons_eq_ite, List.find?_cons, ih]
    by_cases hk : k = pair.1
    · simp only [hk, if_true, decide_true, Option.map_some]
    · simp only [hk, if_false, Ne.symm hk, decide_false]

end Lookup

namespace Layers

theorem entry_of_plain {key : Text} (h : KeyPath.Plain key) (value : Setting) :
    entry key value = (Text.toLowerName key, value) := by
  unfold entry
  rw [KeyPath.root_of_plain (KeyPath.plain_toLowerName_iff.2 h)]
  rfl

/-- The text of the variable that names a field. -/
def assigned? (env : List (Text × Text)) (field : Text) : Option Text :=
  (env.find? fun pair => Text.toLowerName pair.1 = variableStart ++ field).map (·.2)

/-- The value under the key of a table that names a field. -/
def tableValue? (table : Toml.Table) (field : Text) : Option Setting :=
  (table.find? fun entry => Text.toLowerName entry.1 = field).map fun entry => .ofToml entry.2

theorem toLowerName_of_stripStart {name key : Text}
    (h : stripStart variableStart (Text.toLowerName name) = some key) :
    Text.toLowerName key = key := by
  have hname := stripStart_eq_some_iff.1 h
  have hstart : Text.toLowerName variableStart = variableStart := by decide
  have hlower := congrArg Text.toLowerName hname
  rw [Text.toLowerName_toLowerName, hname, Text.toLowerName_append, hstart] at hlower
  exact (List.append_cancel_left hlower).symm

theorem ofVariable?_of_plain {pair : Text × Text}
    (h : variableStart <+: Text.toLowerName pair.1 → KeyPath.Plain pair.1) :
    ofVariable? pair = (stripStart variableStart (Text.toLowerName pair.1)).map fun key =>
      (key, .text pair.2) := by
  unfold ofVariable?
  cases hstrip : stripStart variableStart (Text.toLowerName pair.1) with
  | none => rfl
  | some key =>
    have hname := stripStart_eq_some_iff.1 hstrip
    have hplain : KeyPath.Plain key := by
      have hwhole := KeyPath.plain_toLowerName_iff.2 (h ⟨key, hname.symm⟩)
      rw [hname] at hwhole
      exact hwhole.of_append
    rw [Option.map_some, Option.map_some, entry_of_plain hplain, toLowerName_of_stripStart hstrip]

section Variables
variable {env : List (Text × Text)}
  (h : ∀ pair ∈ env, variableStart <+: Text.toLowerName pair.1 → KeyPath.Plain pair.1)
include h

theorem lookup_ofVariables (field : Text) :
    (ofVariables env).lookup field = (assigned? env field).map .text := by
  unfold ofVariables assigned?
  induction env with
  | nil => rfl
  | cons pair env ih =>
    have hrest := ih fun other hother => h other (List.mem_cons_of_mem pair hother)
    rw [List.filterMap_cons, ofVariable?_of_plain (h pair List.mem_cons_self), List.find?_cons]
    cases hstrip : stripStart variableStart (Text.toLowerName pair.1) with
    | none =>
      have hother : ¬ Text.toLowerName pair.1 = variableStart ++ field := fun heq =>
        stripStart_eq_none_iff.1 hstrip ⟨field, heq.symm⟩
      simpa only [Option.map_none, hother, decide_false] using hrest
    | some key =>
      have hname := stripStart_eq_some_iff.1 hstrip
      simp only [Option.map_some, lookup_cons_eq_ite, hrest, hname, List.append_cancel_left_eq]
      by_cases hkey : field = key
      · simp only [hkey, if_true, decide_true, Option.map_some]
      · simp only [hkey, if_false, Ne.symm hkey, decide_false]

theorem map_fst_ofVariables :
    (ofVariables env).map (·.1) =
      (env.map (Text.toLowerName ·.1)).filterMap (stripStart variableStart) := by
  unfold ofVariables
  rw [List.map_filterMap, List.filterMap_map]
  refine List.filterMap_congr fun pair hpair => ?_
  rw [ofVariable?_of_plain (h pair hpair), Option.map_map]
  simp [Function.comp_def]

theorem nodup_ofVariables (hnames : (env.map (Text.toLowerName ·.1)).Nodup) :
    ((ofVariables env).map (·.1)).Nodup := by
  rw [map_fst_ofVariables h]
  refine hnames.filterMap fun name name' key hkey hkey' => ?_
  rw [stripStart_eq_some_iff.1 hkey, stripStart_eq_some_iff.1 hkey']

end Variables

/-- The value of a variable is a text, also when it is empty. -/
theorem ne_empty_of_mem_ofVariables {env : List (Text × Text)} {layer : Text × Setting}
    (h : layer ∈ ofVariables env) : layer.2 ≠ .empty := by
  obtain ⟨pair, -, hpair⟩ := List.mem_filterMap.1 h
  obtain ⟨key, -, rfl⟩ := Option.map_eq_some_iff.1 hpair
  unfold entry
  dsimp only
  split <;> simp

/-- A variable hides whatever the layers below hold under the name of its field. -/
theorem get?_append_ofVariables {env : List (Text × Text)}
    (henv : ∀ pair ∈ env, variableStart <+: Text.toLowerName pair.1 → KeyPath.Plain pair.1)
    (hnames : (env.map (Text.toLowerName ·.1)).Nodup) (below : Layers) (field : Text) :
    (below ++ ofVariables env).get? field =
      ((assigned? env field).map .text).or (below.get? field) := by
  have hvariables : (ofVariables env).filter (·.2 ≠ .empty) = ofVariables env :=
    List.filter_eq_self.2 fun layer hlayer => decide_eq_true (ne_empty_of_mem_ofVariables hlayer)
  have hlookup := lookup_ofVariables henv field
  have hupper : (ofVariables env).reverse.lookup field = (assigned? env field).map .text := by
    rw [lookup_reverse_of_nodup (nodup_ofVariables henv hnames), hlookup]
  unfold get?
  rw [List.filter_append, hvariables, List.reverse_append, List.lookup_append, List.lookup_append,
    hupper, hlookup]
  cases assigned? env field with
  | some text => rfl
  | none => rw [Option.map_none, Option.none_or, Option.none_or, Option.or_none]

section Table
variable {table : Toml.Table} (h : ∀ entry ∈ table, KeyPath.Plain entry.1)
include h

theorem ofTable_of_plain :
    ofTable table = table.map fun entry => (Text.toLowerName entry.1, .ofToml entry.2) :=
  List.map_congr_left fun entry hentry => entry_of_plain (h entry hentry) _

theorem lookup_ofTable (field : Text) : (ofTable table).lookup field = tableValue? table field := by
  rw [ofTable_of_plain h]
  clear h
  unfold tableValue?
  induction table with
  | nil => rfl
  | cons entry table ih =>
    rw [List.map_cons, lookup_cons_eq_ite, List.find?_cons, ih]
    by_cases hkey : field = Text.toLowerName entry.1
    · simp only [hkey, if_true, decide_true, Option.map_some]
    · simp only [hkey, if_false, Ne.symm hkey, decide_false]

theorem nodup_ofTable (hkeys : (table.map (Text.toLowerName ·.1)).Nodup) :
    ((ofTable table).map (·.1)).Nodup := by
  rw [ofTable_of_plain h, List.map_map]
  exact hkeys

end Table

/-- What a field is set to: the text of its variable, were it empty, and else its value in the
table. -/
def merged (table : Toml.Table) (env : List (Text × Text)) (field : Text) : Option Setting :=
  ((assigned? env field).map .text).or (tableValue? table field)

theorem get?_append {table : Toml.Table} {env : List (Text × Text)}
    (htable : ∀ entry ∈ table, KeyPath.Plain entry.1)
    (hkeys : (table.map (Text.toLowerName ·.1)).Nodup)
    (henv : ∀ pair ∈ env, variableStart <+: Text.toLowerName pair.1 → KeyPath.Plain pair.1)
    (hnames : (env.map (Text.toLowerName ·.1)).Nodup) (field : Text) :
    (ofTable table ++ ofVariables env).get? field = merged table env field := by
  have hnodup := nodup_ofTable htable hkeys
  have hlower : ((ofTable table).filter (·.2 ≠ .empty)).reverse.lookup field =
      (tableValue? table field).filter (· ≠ .empty) := by
    rw [lookup_reverse_of_nodup (hnodup.sublist (List.filter_sublist.map _)), ← lookup_ofTable htable]
    exact lookup_filter_of_nodup hnodup (fun value => decide (value ≠ .empty)) field
  rw [get?_append_ofVariables henv hnames, merged, get?, hlower, lookup_ofTable htable]
  -- an empty table is found in the end if there is nothing else
  cases tableValue? table field with
  | none => rfl
  | some value =>
    rw [Option.filter_some]
    split <;> rfl

end Layers

end RuntimeLauncher
