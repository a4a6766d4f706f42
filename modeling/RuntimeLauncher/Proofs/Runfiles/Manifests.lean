import Mathlib.Tactic
import RuntimeLauncher.Proofs.LaunchData.Insertion
import RuntimeLauncher.Proofs.Text.Cuts
import RuntimeLauncher.Runfiles.Basic

/-! What a manifest says of a name: its text as lines, and the line that counts. -/
namespace RuntimeLauncher.Manifest

/-- A text as lines. All but the last stand before a line feed, and a carriage return in front of
that is no part of the line. -/
inductive Lines : Text → List Text → Prop where
  | last {line : Text} : '\n' ∉ line → Lines line [line]
  | feed {line rest : Text} {others : List Text} : '\n' ∉ line → ¬ ['\r'] <:+ line →
    Lines rest others → Lines (line ++ '\n' :: rest) (line :: others)
  | returnFeed {line rest : Text} {others : List Text} : '\n' ∉ line →
    Lines rest others → Lines (line ++ '\r' :: '\n' :: rest) (line :: others)

/-- The line is for a name: that is what stands before its first space, and the target what stands
after it. A line without a space is for the whole of it, with an empty target. -/
inductive Names : Text → Text → Path → Prop where
  | bare {name : Text} : ' ' ∉ name → Names name name []
  | target {name : Text} {target : Path} : ' ' ∉ name → Names (name ++ ' ' :: target) name target

/-- The last line for a name, empty lines apart, has this target. -/
def LastLine (text name : Text) (target : Path) : Prop :=
  ∃ before line after, Lines text (before ++ line :: after) ∧ line ≠ [] ∧ Names line name target ∧
    ∀ later ∈ after, later ≠ [] → ∀ other, ¬ Names later name other

theorem lines_of_not_mem {line : Text} (h : '\n' ∉ line) : lines line = [line] := by
  simp [lines, List.splitOn_eq_singleton h]

theorem lines_append_feed {line : Text} (h : '\n' ∉ line) (rest : Text) :
    lines (line ++ '\n' :: rest) = (stripEnd ['\r'] line).getD line :: lines rest := by
  obtain ⟨piece, pieces, hpieces⟩ := List.exists_cons_of_ne_nil (List.splitOn_ne_nil '\n' rest)
  simp only [lines, List.splitOn_append_cons_self_of_not_mem h, hpieces, List.dropLast_cons_cons,
    List.map_cons, List.getLast?_cons_cons, List.cons_append]

theorem lines_iff {text : Text} {ls : List Text} : Lines text ls ↔ ls = lines text := by
  constructor
  · intro h
    induction h with
    | last hline => rw [lines_of_not_mem hline]
    | @feed line rest others hline hreturn _ ih =>
      rw [lines_append_feed hline, stripEnd_eq_none_iff.2 hreturn, ih, Option.getD_none]
    | @returnFeed line rest others hline _ ih =>
      have hmem : '\n' ∉ line ++ ['\r'] := by simp [hline]
      have hstrip : stripEnd ['\r'] (line ++ ['\r']) = some line := stripEnd_eq_some_iff.2 rfl
      have hlines := lines_append_feed hmem rest
      rw [hstrip, Option.getD_some, List.append_assoc, List.singleton_append] at hlines
      rw [hlines, ih]
  · rintro rfl
    induction text using cutInduction '\n' with
    | whole line hline =>
      rw [lines_of_not_mem hline]
      exact .last hline
    | cut line rest hline ih =>
      rw [lines_append_feed hline]
      cases hstrip : stripEnd ['\r'] line with
      | none => exact .feed hline (stripEnd_eq_none_iff.1 hstrip) ih
      | some front =>
        obtain rfl := stripEnd_eq_some_iff.1 hstrip
        have hfront : '\n' ∉ front := fun hmem => hline (List.mem_append_left _ hmem)
        rw [List.append_assoc, List.singleton_append]
        exact .returnFeed hfront ih

theorem parseLine_eq_iff {line name : Text} {target : Path} :
    parseLine line = (name, target) ↔ Names line name target := by
  constructor
  · intro h
    cases hcut : cutFirst ' ' line with
    | none =>
      obtain ⟨rfl, rfl⟩ : line = name ∧ [] = target := by simpa [parseLine, hcut] using h
      exact .bare (cutFirst_eq_none_iff.1 hcut)
    | some parts =>
      obtain rfl : parts = (name, target) := by simpa [parseLine, hcut] using h
      obtain ⟨rfl, hname⟩ := cutFirst_eq_some_iff.1 hcut
      exact .target hname
  · intro h
    cases h with
    | bare hname => rw [parseLine, cutFirst_eq_none_iff.2 hname, Option.getD_none]
    | target hname => rw [parseLine, cutFirst_append_cons hname, Option.getD_some]

/-- The last pair with a name comes from the last line for it. -/
theorem lastPair_parse_iff {text name : Text} {target : Path} :
    LaunchData.LastPair (parse text) name target ↔ LastLine text name target := by
  have hname (line : Text) :
      (parseLine line).1 = name ↔ ∃ other, Names line name other := by
    constructor
    · rintro rfl
      exact ⟨(parseLine line).2, parseLine_eq_iff.1 rfl⟩
    · rintro ⟨other, hother⟩
      rw [parseLine_eq_iff.2 hother]
  constructor
  · rintro ⟨before, after, hpairs, hafter⟩
    obtain ⟨kept, rest, hkept, -, hrest⟩ := List.map_eq_append_iff.1 hpairs
    obtain ⟨line, others, rfl, hline, rfl⟩ := List.map_eq_cons_iff.1 hrest
    obtain ⟨front, back, hlines, -, hback⟩ := List.filter_eq_append_iff.1 hkept
    obtain ⟨skipped, later, rfl, -, hne, rfl⟩ := List.filter_eq_cons_iff.1 hback
    refine ⟨front ++ skipped, line, later, ?_, by simpa using hne, parseLine_eq_iff.1 hline, ?_⟩
    · rw [lines_iff, hlines, List.append_assoc]
    · intro other hother hnonempty found hfound
      have hkeptOther : other ∈ later.filter (· ≠ []) :=
        List.mem_filter.2 ⟨hother, by simpa using hnonempty⟩
      exact hafter _ (List.mem_map_of_mem hkeptOther) ((hname other).2 ⟨found, hfound⟩)
  · rintro ⟨before, line, after, hlines, hne, hline, hafter⟩
    refine ⟨(before.filter (· ≠ [])).map parseLine, (after.filter (· ≠ [])).map parseLine, ?_, ?_⟩
    · rw [parse, ← lines_iff.1 hlines, List.filter_append,
        List.filter_cons_of_pos (by simpa using hne), List.map_append, List.map_cons,
        parseLine_eq_iff.2 hline]
    · intro later hlater heq
      obtain ⟨other, hother, rfl⟩ := List.mem_map.1 hlater
      obtain ⟨hmem, hnonempty⟩ := List.mem_filter.1 hother
      obtain ⟨found, hfound⟩ := (hname other).1 heq
      exact hafter other hmem (by simpa using hnonempty) found hfound

/-- The last line for a name decides, also when its target is empty. -/
theorem find?_parse_of_lastLine {text name : Text} {target : Path} (h : LastLine text name target) :
    (parse text).find? name = if target = [] then none else some target := by
  have hlookup := LaunchData.lookup_reverse_eq_some_iff.2 (lastPair_parse_iff.2 h)
  rw [find?, hlookup, Option.filter_some]
  by_cases htarget : target = []
  · simp [htarget]
  · simp [htarget]

theorem find?_parse_of_no_line {text name : Text} (h : ∀ target, ¬ LastLine text name target) :
    (parse text).find? name = none := by
  have hlookup : (parse text).reverse.lookup name = none := by
    rw [Option.eq_none_iff_forall_ne_some]
    intro target htarget
    exact h target (lastPair_parse_iff.1 (LaunchData.lookup_reverse_eq_some_iff.1 htarget))
  rw [find?, hlookup, Option.filter_none]

end RuntimeLauncher.Manifest
