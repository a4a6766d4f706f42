import RuntimeLauncher.Launch.Parts
import RuntimeLauncher.Proofs.Environment.Entries
import RuntimeLauncher.Proofs.Text.Cuts

/-! Declarations of variables: which texts declare variables, and how a declaration and its pairs
make up each other. -/
namespace RuntimeLauncher.Assignments

/-- A name and a value that can stand in a declaration. -/
structure Declarable (pair : Text × Text) : Prop where
  name_ne : pair.1 ≠ []
  equals_not_mem : '=' ∉ pair.1
  semicolon_not_mem : ';' ∉ pair.1
  semicolon_not_mem_value : ';' ∉ pair.2

def written (pair : Text × Text) : Text := pair.1 ++ '=' :: pair.2

/-- What stands between the semicolons of a declaration, where that is more than nothing. -/
def segments (raw : Text) : List Text := (raw.splitOn ';').filter (· ≠ [])

theorem parseEntry_eq_ok_iff {entry : Text} {pair : Text × Text} :
    parseEntry entry = .ok pair ↔ entry = written pair ∧ pair.1 ≠ [] ∧ '=' ∉ pair.1 := by
  obtain ⟨name, value⟩ := pair
  constructor
  · intro h
    cases hcut : cutFirst '=' entry with
    | none => simp [parseEntry, hcut] at h
    | some parts =>
      obtain ⟨front, back⟩ := parts
      cases front with
      | nil => simp [parseEntry, hcut] at h
      | cons c front =>
        obtain ⟨rfl, rfl⟩ : c :: front = name ∧ back = value := by simpa [parseEntry, hcut] using h
        obtain ⟨rfl, hname⟩ := cutFirst_eq_some_iff.1 hcut
        exact ⟨rfl, List.cons_ne_nil c front, hname⟩
  · rintro ⟨rfl, hne, hname⟩
    obtain ⟨c, rest, rfl⟩ := List.exists_cons_of_ne_nil hne
    have hcut : cutFirst '=' (written (c :: rest, value)) = some (c :: rest, value) :=
      cutFirst_append_cons hname value
    rw [parseEntry, hcut]

/-- The pairs of a declaration follow its segments, each of which is a pair as it is written. -/
theorem mapM_parseEntry_eq_ok_iff {entries : List Text} {pairs : List (Text × Text)} :
    entries.mapM parseEntry = .ok pairs ↔
      entries = pairs.map written ∧ ∀ pair ∈ pairs, pair.1 ≠ [] ∧ '=' ∉ pair.1 := by
  induction entries generalizing pairs with
  | nil =>
    cases pairs with
    | nil => simp
    | cons pair pairs => simp
  | cons entry rest ih =>
    simp only [List.mapM_cons, bind_eq_ok_iff, parseEntry_eq_ok_iff, ih, pure_eq_ok, Except.ok.injEq]
    constructor
    · rintro ⟨pair, ⟨rfl, hpair⟩, pairs, ⟨rfl, hpairs⟩, rfl⟩
      exact ⟨rfl, List.forall_mem_cons.2 ⟨hpair, hpairs⟩⟩
    · rintro ⟨hwritten, hnames⟩
      obtain ⟨pair, pairs, rfl, rfl, rfl⟩ := List.map_eq_cons_iff.1 hwritten.symm
      obtain ⟨hpair, hpairs⟩ := List.forall_mem_cons.1 hnames
      exact ⟨pair, ⟨rfl, hpair⟩, pairs, ⟨rfl, hpairs⟩, rfl⟩

theorem parse_eq_ok_iff {raw : Text} {pairs : List (Text × Text)} :
    parse raw = .ok pairs ↔
      segments raw = pairs.map written ∧ ∀ pair ∈ pairs, pair.1 ≠ [] ∧ '=' ∉ pair.1 :=
  mapM_parseEntry_eq_ok_iff

theorem semicolon_not_mem_of_mem_segments {raw segment : Text} (h : segment ∈ segments raw) :
    ';' ∉ segment :=
  not_mem_of_mem_splitOn (List.mem_filter.1 h).1

theorem declarable_of_parse {raw : Text} {pairs : List (Text × Text)} (h : parse raw = .ok pairs)
    {pair : Text × Text} (hpair : pair ∈ pairs) : Declarable pair := by
  obtain ⟨hsegments, hnames⟩ := parse_eq_ok_iff.1 h
  obtain ⟨hne, hequals⟩ := hnames pair hpair
  have hmem : written pair ∈ segments raw := hsegments ▸ List.mem_map_of_mem hpair
  have hsemicolon := semicolon_not_mem_of_mem_segments hmem
  simp only [written, List.mem_append, List.mem_cons, not_or] at hsemicolon
  exact ⟨hne, hequals, hsemicolon.1, hsemicolon.2.2⟩

theorem segments_render {pairs : List (Text × Text)} (h : ∀ pair ∈ pairs, Declarable pair) :
    segments (render pairs) = pairs.map written := by
  by_cases hnil : pairs = []
  · rw [hnil]
    rfl
  have hplain : ∀ text ∈ pairs.map written, ';' ∉ text := by
    intro text htext
    obtain ⟨pair, hpair, rfl⟩ := List.mem_map.1 htext
    simp [written, (h pair hpair).semicolon_not_mem, (h pair hpair).semicolon_not_mem_value]
  have hsplit : (render pairs).splitOn ';' = pairs.map written :=
    List.splitOn_intercalate ';' hplain (by simpa using hnil)
  rw [segments, hsplit, List.filter_eq_self]
  intro text htext
  obtain ⟨pair, -, rfl⟩ := List.mem_map.1 htext
  simp [written]

theorem parse_render {pairs : List (Text × Text)} (h : ∀ pair ∈ pairs, Declarable pair) :
    parse (render pairs) = .ok pairs :=
  parse_eq_ok_iff.2 ⟨segments_render h, fun pair hpair =>
    ⟨(h pair hpair).name_ne, (h pair hpair).equals_not_mem⟩⟩

theorem not_malformed_iff {segment : Text} (hne : segment ≠ []) :
    ¬ Malformed segment ↔ '=' ∈ segment ∧ segment.head? ≠ some '=' := by
  rw [Malformed, not_and, not_or, not_not]
  exact ⟨fun h => h hne, fun h _ => h⟩

theorem find?_malformed_eq_some_iff {raw segment : Text} :
    (raw.splitOn ';').find? (Malformed ·) = some segment ↔
      ∃ before after, raw.splitOn ';' = before ++ segment :: after ∧ Malformed segment ∧
        ∀ earlier ∈ before, ¬ Malformed earlier := by
  rw [List.find?_eq_some_iff_append]
  constructor
  · rintro ⟨hsegment, before, after, hparts, hbefore⟩
    exact ⟨before, after, hparts, by simpa using hsegment, by simpa using hbefore⟩
  · rintro ⟨before, after, hparts, hsegment, hbefore⟩
    exact ⟨by simpa using hsegment, before, after, hparts, by simpa using hbefore⟩

theorem exists_parse_eq_ok_iff {raw : Text} :
    (∃ pairs, parse raw = .ok pairs) ↔
      ∀ segment ∈ raw.splitOn ';', segment ≠ [] → '=' ∈ segment ∧ segment.head? ≠ some '=' := by
  have hnone : (raw.splitOn ';').find? (Malformed ·) = none ↔
      ∀ segment ∈ raw.splitOn ';', segment ≠ [] → '=' ∈ segment ∧ segment.head? ≠ some '=' := by
    rw [List.find?_eq_none]
    refine forall₂_congr fun segment _ => ?_
    rw [decide_eq_true_iff]
    constructor
    · exact fun h hne => (not_malformed_iff hne).1 h
    · exact fun h hmalformed => (not_malformed_iff hmalformed.1).2 (h hmalformed.1) hmalformed
  rw [← hnone]
  cases hparse : parse raw with
  | error segment =>
    have hfirst := parse_eq_error_iff.1 hparse
    simp [hfirst]
  | ok pairs =>
    have hfree : (raw.splitOn ';').find? (Malformed ·) = none := by
      rw [Option.eq_none_iff_forall_ne_some]
      intro segment hsegment
      rw [parse_eq_error_iff.2 hsegment] at hparse
      contradiction
    simp [hfree]

/-- A text declares variables if each of its segments has an `=` and none begins with one, and then
its pairs are the segments, cut at their first `=`. Otherwise the first segment that does not is
the error. Pairs that can be declared are read back from the text they make. -/
theorem parse_segments :
    (∀ raw : Text,
      ((∃ pairs, parse raw = .ok pairs) ↔
        ∀ segment ∈ raw.splitOn ';', segment ≠ [] → '=' ∈ segment ∧ segment.head? ≠ some '=') ∧
      (∀ pairs, parse raw = .ok pairs →
        (raw.splitOn ';').filter (· ≠ []) = pairs.map (fun pair => pair.1 ++ '=' :: pair.2) ∧
        (∀ pair ∈ pairs, Declarable pair) ∧
        render pairs = [';'].intercalate ((raw.splitOn ';').filter (· ≠ []))) ∧
      ∀ segment, parse raw = .error segment ↔
        ∃ before after, raw.splitOn ';' = before ++ segment :: after ∧ Malformed segment ∧
          ∀ earlier ∈ before, ¬ Malformed earlier) ∧
    (∀ raw runfiles env segment, parse raw = .error segment →
      childEnvironment (some raw) runfiles env = .error (.malformedEntry segment)) ∧
    ∀ pairs, (∀ pair ∈ pairs, Declarable pair) → parse (render pairs) = .ok pairs := by
  refine ⟨fun raw => ⟨exists_parse_eq_ok_iff, ?_, ?_⟩, ?_, fun pairs h => parse_render h⟩
  · intro pairs hparse
    have hsegments := (parse_eq_ok_iff.1 hparse).1
    refine ⟨hsegments, fun pair hpair => declarable_of_parse hparse hpair, ?_⟩
    exact congrArg [';'].intercalate hsegments.symm
  · intro segment
    rw [parse_eq_error_iff, find?_malformed_eq_some_iff]
  · intro raw runfiles env segment hparse
    rw [childEnvironment, Option.getD_some, hparse]

/-- The `=` that counts is the first one: with one in front, a later one does not help. -/
theorem parse_leading_equals :
    (∀ segment ∈ "=a=b".toList.splitOn ';',
      ∃ front back, segment = front ++ '=' :: back ∧ front ≠ []) ∧
    parse "=a=b".toList = .error "=a=b".toList := by
  have hsplit : "=a=b".toList.splitOn ';' = ["=a=b".toList] := rfl
  refine ⟨?_, rfl⟩
  intro segment hsegment
  obtain rfl := List.mem_singleton.1 (hsplit ▸ hsegment)
  exact ⟨"=a".toList, ['b'], rfl, by decide⟩

end RuntimeLauncher.Assignments
