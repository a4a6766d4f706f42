import Mathlib.Tactic
import RuntimeLauncher.CommandLine.Quoting

/-! Quoted arguments with spaces between them are cut apart into the same arguments, with either
reading of adjacent quotes. -/
namespace RuntimeLauncher.CommandLine

variable (adjacent : AdjacentQuotes)

/-- Where an argument is over: at the end of the line or before a space. -/
inductive AtEnd : Text → Prop where
  | line : AtEnd []
  | space (more : Text) : AtEnd (' ' :: more)

theorem splitFrom_backslashes (quoted : Bool) (n count : Nat) (arg rest : Text) :
    splitFrom adjacent quoted n (some arg) (List.replicate count '\\' ++ rest) =
      splitFrom adjacent quoted (n + count) (some arg) rest := by
  induction count generalizing n with
  | zero => rfl
  | succ count ih =>
    rw [List.replicate_succ, List.cons_append, splitFrom, if_pos rfl, Option.getD_some, ih]
    congr 1
    omega

/-- An odd backslash before a quote makes it part of the argument. -/
theorem splitFrom_literalQuote (quoted : Bool) (n : Nat) (arg rest : Text) :
    splitFrom adjacent quoted (2 * n + 1) (some arg) ('"' :: rest) =
      splitFrom adjacent quoted 0 (some (arg ++ List.replicate n '\\' ++ ['"'])) rest := by
  have hhalf : (2 * n + 1) / 2 = n := by omega
  have hodd : (2 * n + 1) % 2 = 1 := by omega
  rw [splitFrom.eq_def]
  simp [hhalf, hodd]

theorem splitFrom_openingQuote (rest : Text) :
    splitFrom adjacent false 0 none ('"' :: rest) = splitFrom adjacent true 0 (some []) rest := by
  rw [splitFrom.eq_def]
  simp

/-- A quote after an even number of backslashes ends a quoted section, unless it has a second one
next to it. -/
theorem splitFrom_closingQuote (n : Nat) (arg : Text) {rest : Text} (h : AtEnd rest) :
    splitFrom adjacent true (2 * n) (some arg) ('"' :: rest) =
      splitFrom adjacent false 0 (some (arg ++ List.replicate n '\\')) rest := by
  have hhalf : 2 * n / 2 = n := by omega
  rw [splitFrom.eq_def]
  cases h <;> simp [hhalf]

/-- Any other character ends the backslashes, which are part of the argument. -/
theorem splitFrom_other (quoted : Bool) (n : Nat) (arg : Text) {c : Char} (rest : Text)
    (hslash : c ≠ '\\') (hquote : c ≠ '"') (hblank : quoted = false → c ≠ ' ' ∧ c ≠ '\t') :
    splitFrom adjacent quoted n (some arg) (c :: rest) =
      splitFrom adjacent quoted 0 (some (arg ++ List.replicate n '\\' ++ [c])) rest := by
  have hcut : (!quoted && (c == ' ' || c == '\t')) = false := by
    cases quoted with
    | true => rfl
    | false => simp [hblank rfl]
  rw [splitFrom.eq_def]
  simp [hslash, hquote, hcut]

theorem splitFrom_atEnd (n : Nat) (arg : Text) {rest : Text} (h : AtEnd rest) :
    splitFrom adjacent false n (some arg) rest =
      (arg ++ List.replicate n '\\') :: split adjacent (rest.drop 1) := by
  cases h with
  | line => rfl
  | space more =>
    rw [splitFrom.eq_def]
    simp [split]

/-- An argument that is not blank in front begins with its first character. -/
theorem splitFrom_none_cons {c : Char} (hspace : c ≠ ' ') (htab : c ≠ '\t') (rest : Text) :
    splitFrom adjacent false 0 none (c :: rest) =
      splitFrom adjacent false 0 (some []) (c :: rest) := by
  rw [splitFrom.eq_def, splitFrom.eq_def]
  simp [hspace, htab]

/-- The inside of a quoted section up to its closing quote. The backslashes that the writer holds
back are the ones that the reader has not come to. -/
theorem splitFrom_quoteBody (n : Nat) (body arg : Text) {rest : Text} (h : AtEnd rest) :
    splitFrom adjacent true 0 (some body) (quoteBody n arg ++ '"' :: rest) =
      (body ++ List.replicate n '\\' ++ arg) :: split adjacent (rest.drop 1) := by
  induction arg generalizing n body with
  | nil =>
    rw [quoteBody, splitFrom_backslashes, Nat.zero_add, splitFrom_closingQuote adjacent n body h,
      splitFrom_atEnd adjacent 0 _ h, List.replicate_zero]
  | cons c arg ih =>
    rw [quoteBody]
    split_ifs with hslash hquote
    · rw [ih, hslash, List.replicate_succ']
      simp
    · rw [List.append_assoc, splitFrom_backslashes, Nat.zero_add, List.cons_append,
        splitFrom_literalQuote, ih, hquote]
      simp
    · rw [List.append_assoc, splitFrom_backslashes, Nat.zero_add, List.cons_append,
        splitFrom_other adjacent true n body _ hslash hquote (by simp), ih]
      simp

theorem splitFrom_plain (n : Nat) (body : Text) {arg : Text} (harg : arg.any isSpecial = false)
    {rest : Text} (h : AtEnd rest) :
    splitFrom adjacent false n (some body) (arg ++ rest) =
      (body ++ List.replicate n '\\' ++ arg) :: split adjacent (rest.drop 1) := by
  induction arg generalizing n body with
  | nil => rw [List.nil_append, splitFrom_atEnd adjacent n body h, List.append_nil]
  | cons c arg ih =>
    obtain ⟨hc, harg⟩ : isSpecial c = false ∧ arg.any isSpecial = false := by simpa using harg
    by_cases hslash : c = '\\'
    · rw [hslash, List.cons_append, splitFrom, if_pos rfl, Option.getD_some, ih _ _ harg,
        List.replicate_succ']
      simp
    · simp only [isSpecial, Bool.or_eq_false_iff, beq_eq_false_iff_ne] at hc
      obtain ⟨⟨⟨⟨hspace, htab⟩, -⟩, -⟩, hquote⟩ := hc
      rw [List.cons_append,
        splitFrom_other adjacent false n body _ hslash hquote fun _ => ⟨hspace, htab⟩, ih _ _ harg]
      simp

/-- A quoted argument is read back from the front of a line. -/
theorem split_quote_append (arg : Text) {rest : Text} (h : AtEnd rest) :
    split adjacent (quote arg ++ rest) = arg :: split adjacent (rest.drop 1) := by
  rw [quote, split]
  split_ifs with hempty hspecial
  · subst hempty
    exact (splitFrom_openingQuote adjacent _).trans (splitFrom_quoteBody adjacent 0 [] [] h)
  · rw [List.append_assoc, List.cons_append, List.singleton_append, splitFrom_openingQuote,
      splitFrom_quoteBody adjacent 0 [] arg h]
    simp
  · cases arg with
    | nil => contradiction
    | cons c arg =>
      have hplain : (c :: arg).any isSpecial = false := by simpa using hspecial
      obtain ⟨hspace, htab⟩ : c ≠ ' ' ∧ c ≠ '\t' := by
        constructor <;> rintro rfl <;> simp [isSpecial] at hplain
      have hread := splitFrom_plain adjacent 0 [] hplain h
      rw [List.cons_append] at hread
      rw [List.cons_append, splitFrom_none_cons adjacent hspace htab, hread]
      simp

/-- Splitting a line of quoted arguments gives the arguments. -/
theorem split_intercalate_quote (args : List Text) :
    split adjacent ([' '].intercalate (args.map quote)) = args := by
  induction args with
  | nil => rfl
  | cons arg args ih =>
    cases args with
    | nil => simpa [split, splitFrom] using split_quote_append adjacent arg .line
    | cons next args =>
      rw [List.map_cons, List.map_cons, List.intercalate_cons_cons, List.append_assoc,
        List.singleton_append, split_quote_append adjacent arg (.space _), List.drop_one,
        List.tail_cons, ← List.map_cons, ih]

end RuntimeLauncher.CommandLine
