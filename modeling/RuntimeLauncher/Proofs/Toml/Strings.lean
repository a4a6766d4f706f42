import Mathlib.Tactic
import RuntimeLauncher.Toml.Writing

/-! Strings that are written as TOML are read back, whatever notation they were written in. -/
namespace RuntimeLauncher.Toml

theorem isPlain_or_of_not_isControl {c : Char} (h : isControl c = false) :
    isPlain c = true ∨ c = '\n' := by
  unfold isControl at h
  unfold isPlain
  by_cases htab : c = '\t'
  · exact .inl (by rw [htab]; rfl)
  by_cases hbreak : c = '\n'
  · exact .inr hbreak
  have htab' : (c != '\t') = true := bne_iff_ne.2 htab
  have hbreak' : (c != '\n') = true := bne_iff_ne.2 hbreak
  rw [htab', hbreak', Bool.and_true, Bool.and_true, Bool.or_eq_false_iff, decide_eq_false_iff_not,
    beq_eq_false_iff_ne] at h
  have hprintable : (decide (0x20 ≤ c.toNat) && c.toNat != 0x7F) = true := by
    rw [Bool.and_eq_true, decide_eq_true_eq, bne_iff_ne]
    exact ⟨Nat.le_of_not_lt h.1, h.2⟩
  exact .inl (by rw [hprintable, Bool.or_true])

theorem ne_return_of_plain {multi : Bool} {c : Char}
    (h : isPlain c = true ∨ multi = true ∧ c = '\n') : c ≠ '\r' := by
  rintro rfl
  rcases h with hplain | ⟨-, hbreak⟩
  · exact absurd hplain (by decide)
  · exact absurd hbreak (by decide)

theorem not_prefix_of_head? {a : Char} {l m : Text} (h : m.head? ≠ some a) : ¬ a :: l <+: m := by
  rintro ⟨rest, rfl⟩
  exact h rfl

section Quotes
variable {read : Text → Option (Text × Text)} {q : Char} {rest : Text}

theorem afterDelimiter_replicate (hrest : rest.head? ≠ some q) {count : Nat} (hcount : count ≤ 2) :
    afterDelimiter q (List.replicate count q ++ rest) = (List.replicate count q, rest) := by
  have hnone : rest.takeWhile (· == q) = [] := by
    cases rest with
    | nil => rfl
    | cons c rest => exact List.takeWhile_cons_of_neg (by simpa using hrest)
  have htake : ((List.replicate count q ++ rest).takeWhile (· == q)).take 2 =
      List.replicate count q := by
    rw [List.takeWhile_append_of_pos (by simp), hnone, List.append_nil,
      List.take_of_length_le (by simpa using hcount)]
  have hdrop : (List.replicate count q ++ rest).drop (List.replicate count q).length = rest :=
    List.drop_left
  unfold afterDelimiter
  rw [htake]
  exact Prod.ext rfl hdrop

/-- How a string of several lines is read where a quote stands in it: three quotes end the string,
and fewer are part of it. -/
structure ReadsQuotes (q : Char) (read : Text → Option (Text × Text)) : Prop where
  delimiter : ∀ after, read (q :: q :: q :: after) = some (afterDelimiter q after)
  single : ∀ after, ¬ [q, q] <+: after → read (q :: after) = (read after).map (prepend q)

theorem ReadsQuotes.read_replicate (h : ReadsQuotes q read) (hrest : rest.head? ≠ some q)
    (count : Nat) (hcount : count ≤ 2) :
    read (List.replicate count q ++ q :: q :: q :: rest) =
      some (List.replicate count q, rest) := by
  have hswap : List.replicate count q ++ q :: q :: q :: rest =
      q :: q :: q :: (List.replicate count q ++ rest) := by
    have hcomm : List.replicate count q ++ List.replicate 3 q =
        List.replicate 3 q ++ List.replicate count q := by
      rw [List.replicate_append_replicate, List.replicate_append_replicate, Nat.add_comm]
    calc
      _ = (List.replicate count q ++ List.replicate 3 q) ++ rest := by simp
      _ = (List.replicate 3 q ++ List.replicate count q) ++ rest := by rw [hcomm]
      _ = _ := by simp
  rw [hswap, h.delimiter, afterDelimiter_replicate hrest hcount]

/-- A quote that does not begin a run of three is read, also right in front of the delimiter. -/
theorem ReadsQuotes.read_quote (h : ReadsQuotes q read) (hrest : rest.head? ≠ some q)
    {written t : Text} (hfew : ¬ [q, q] <+: written)
    (hread : read (written ++ q :: q :: q :: rest) = some (t, rest)) :
    read (q :: written ++ q :: q :: q :: rest) = some (q :: t, rest) := by
  have hother (hfront : ¬ [q, q] <+: written ++ q :: q :: q :: rest) :
      read (q :: written ++ q :: q :: q :: rest) = some (q :: t, rest) := by
    rw [List.cons_append, h.single _ hfront, hread]
    rfl
  -- the delimiter counts as part of the run only where the string ends in quotes
  match written with
  | [] =>
    have hempty := h.read_replicate hrest 0 (by decide)
    obtain rfl := (Prod.mk.inj (Option.some.inj (hread.symm.trans hempty))).1
    exact h.read_replicate hrest 1 (by decide)
  | [c] =>
    by_cases hc : c = q
    · subst hc
      have hone := h.read_replicate hrest 1 (by decide)
      obtain rfl := (Prod.mk.inj (Option.some.inj (hread.symm.trans hone))).1
      exact h.read_replicate hrest 2 (by decide)
    · refine hother fun hfront => hc ?_
      exact (List.cons_prefix_cons.1 hfront).1.symm
  | c :: d :: written =>
    refine hother fun hfront => hfew ?_
    rw [List.cons_append, List.cons_append, List.cons_prefix_cons, List.cons_prefix_cons] at hfront
    obtain ⟨rfl, rfl, -⟩ := hfront
    exact ⟨written, rfl⟩

end Quotes

section Basic
variable {multi : Bool} {c : Char} {rest : Text}

theorem basicBody_plain (hplain : isPlain c = true ∨ multi = true ∧ c = '\n') (hquote : c ≠ '"')
    (hslash : c ≠ '\\') :
    basicBody multi false (c :: rest) = (basicBody multi false rest).map (prepend c) := by
  have hreturn := ne_return_of_plain hplain
  simp [basicBody, hreturn, hquote, hslash, hplain]

theorem basicBody_escape {meant : Char} (h : shortEscape? c = some meant) :
    basicBody multi false ('\\' :: c :: rest) = (basicBody multi false rest).map (prepend meant) := by
  simp [basicBody, basicEscape, h]

theorem basicCode_of_digits (multi : Bool) (rest : Text) {digits : Text} {a b d e : Nat}
    (h : digits.map hexDigit? = [some a, some b, some d, some e]) :
    basicCode multi 3 0 (digits ++ rest) =
      (Utf8.charOf 0 (16 * (16 * (16 * a + b) + d) + e)).bind fun meant =>
        (basicBody multi false rest).map (prepend meant) := by
  obtain ⟨c₁, _, rfl, h₁, h⟩ := List.map_eq_cons_iff.1 h
  obtain ⟨c₂, _, rfl, h₂, h⟩ := List.map_eq_cons_iff.1 h
  obtain ⟨c₃, _, rfl, h₃, h⟩ := List.map_eq_cons_iff.1 h
  obtain ⟨c₄, _, rfl, h₄, h⟩ := List.map_eq_cons_iff.1 h
  obtain rfl := List.map_eq_nil_iff.1 h
  simp [basicCode, h₁, h₂, h₃, h₄]

theorem map_hexDigit?_codeDigits {n : Nat} (h : n < 128) :
    (codeDigits n).map hexDigit? = [some 0, some 0, some (n / 16), some (n % 16)] := by
  revert n
  decide

theorem basicBody_code (h : c.toNat < 128) :
    basicBody multi false ('\\' :: 'u' :: (codeDigits c.toNat ++ rest)) =
      (basicBody multi false rest).map (prepend c) := by
  have hshort : shortEscape? 'u' = none := rfl
  have hcode : 16 * (16 * (16 * 0 + 0) + c.toNat / 16) + c.toNat % 16 = c.toNat := by omega
  simp only [basicBody, basicEscape, hshort]
  have hread := basicCode_of_digits multi rest (map_hexDigit?_codeDigits h)
  rw [hcode, Utf8.charOf_toNat c (Nat.zero_le _), Option.bind_some] at hread
  simpa using hread

theorem basicBody_escapeBasic (multi : Bool) {c : Char} (hquote : c ≠ '"') (rest : Text) :
    basicBody multi false (escapeBasic multi c ++ rest) =
      (basicBody multi false rest).map (prepend c) := by
  unfold escapeBasic
  split_ifs with hback htab hbreak hmulti hfeed hreturn hslash hcontrol
  · subst hback
    exact basicBody_escape rfl
  · subst htab
    exact basicBody_escape rfl
  · subst hbreak
    exact basicBody_plain (.inr ⟨hmulti, rfl⟩) (by decide) (by decide)
  · subst hbreak
    exact basicBody_escape rfl
  · subst hfeed
    exact basicBody_escape rfl
  · subst hreturn
    exact basicBody_escape rfl
  · subst hslash
    exact basicBody_escape rfl
  · have hcode : c.toNat < 128 := by
      unfold isControl at hcontrol
      simp only [Bool.or_eq_true, Bool.and_eq_true, decide_eq_true_eq, beq_iff_eq] at hcontrol
      omega
    exact basicBody_code hcode
  · have hplain := isPlain_or_of_not_isControl (Bool.eq_false_of_not_eq_true hcontrol)
    exact basicBody_plain (.inl (hplain.resolve_right hbreak)) hquote hslash

/-- What a written character starts with. -/
theorem head?_escapeBasic (multi : Bool) (c : Char) (rest : Text) :
    (escapeBasic multi c ++ rest).head? = some '\\' ∨
      (escapeBasic multi c ++ rest).head? = some c ∧ isControl c = false := by
  unfold escapeBasic
  split_ifs with hback htab hbreak hmulti hfeed hreturn hslash hcontrol
  · exact .inl rfl
  · exact .inl rfl
  · subst hbreak
    exact .inr ⟨rfl, rfl⟩
  · exact .inl rfl
  · exact .inl rfl
  · exact .inl rfl
  · exact .inl rfl
  · exact .inl rfl
  · exact .inr ⟨rfl, Bool.eq_false_of_not_eq_true hcontrol⟩

theorem head?_writeBasic (multi : Bool) (run : Nat) (c : Char) (t rest : Text) :
    (writeBasic multi run (c :: t) ++ rest).head? = some '\\' ∨
      (writeBasic multi run (c :: t) ++ rest).head? = some c ∧ isControl c = false ∧
        (c = '"' → multi = true ∧ run < 2) := by
  unfold writeBasic
  by_cases hquote : c = '"'
  · subst hquote
    rw [if_pos rfl]
    by_cases hbare : multi = true ∧ run < 2
    · rw [if_pos hbare]
      exact .inr ⟨rfl, rfl, fun _ => hbare⟩
    · rw [if_neg hbare]
      exact .inl rfl
  · rw [if_neg hquote, List.append_assoc]
    rcases head?_escapeBasic multi c (writeBasic multi 0 t ++ rest) with hslash | ⟨hself, hcontrol⟩
    · exact .inl hslash
    · exact .inr ⟨hself, hcontrol, fun heq => absurd heq hquote⟩

/-- A quote that would be too many is not written as it is. -/
theorem head?_writeBasic_ne_quote {run : Nat} {c : Char} (h : c = '"' → ¬ (multi = true ∧ run < 2))
    (t rest : Text) : (writeBasic multi run (c :: t) ++ rest).head? ≠ some '"' := by
  intro hhead
  rcases head?_writeBasic multi run c t rest with hslash | ⟨hself, -, hbare⟩
  · rw [hslash] at hhead
    exact absurd hhead (by decide)
  · obtain rfl := Option.some.inj (hself.symm.trans hhead)
    exact h rfl (hbare rfl)

/-- A basic string on one line. -/
theorem basicBody_writeBasic (run : Nat) (t rest : Text) :
    basicBody false false (writeBasic false run t ++ '"' :: rest) = some (t, rest) := by
  induction t generalizing run with
  | nil => simp [writeBasic, basicBody]
  | cons c t ih =>
    unfold writeBasic
    by_cases hquote : c = '"'
    · subst hquote
      rw [if_pos rfl, if_neg (fun h => Bool.false_ne_true h.1), List.cons_append, List.cons_append,
        basicBody_escape rfl, ih]
      rfl
    · rw [if_neg hquote, List.append_assoc, basicBody_escapeBasic false hquote, ih]
      rfl

theorem readsQuotes_basicBody : ReadsQuotes '"' (basicBody true false) := by
  constructor
  · intro after
    simp [basicBody]
  · intro after hfew
    have hmatch : ∀ rest, after = '"' :: '"' :: rest → False := by
      rintro rest rfl
      exact hfew ⟨rest, rfl⟩
    simp [basicBody]

theorem not_prefix_writeBasic_of_escaped {run : Nat} {c : Char}
    (h : c = '"' → ¬ (multi = true ∧ run < 2)) (t after : Text) :
    ¬ '"' :: after <+: writeBasic multi run (c :: t) := by
  have hhead := head?_writeBasic_ne_quote h t []
  rw [List.append_nil] at hhead
  exact not_prefix_of_head? hhead

/-- Behind a quote, no two further ones are written as they are. -/
theorem not_prefix_writeBasic (run : Nat) (t : Text) :
    ¬ ['"', '"'] <+: writeBasic true (run + 1) t := by
  cases t with
  | nil => exact not_prefix_of_head? (by simp [writeBasic])
  | cons c t =>
    by_cases hbare : c = '"' ∧ run + 1 < 2
    · obtain ⟨rfl, hless⟩ := hbare
      unfold writeBasic
      rw [if_pos rfl, if_pos ⟨rfl, hless⟩, List.cons_prefix_cons]
      intro hfront
      -- the run is two quotes long now, and a third one would be escaped
      cases t with
      | nil => exact not_prefix_of_head? (by simp [writeBasic]) hfront.2
      | cons d t =>
        have hfull : d = '"' → ¬ (true = true ∧ run + 1 + 1 < 2) := by omega
        exact not_prefix_writeBasic_of_escaped hfull t [] hfront.2
    · have hfull : c = '"' → ¬ (true = true ∧ run + 1 < 2) := fun hc hless => hbare ⟨hc, hless.2⟩
      exact not_prefix_writeBasic_of_escaped hfull t ['"']

/-- A basic string of several lines. -/
theorem basicBody_writeBasic_multi (run : Nat) (t : Text) {rest : Text}
    (hrest : rest.head? ≠ some '"') :
    basicBody true false (writeBasic true run t ++ '"' :: '"' :: '"' :: rest) = some (t, rest) := by
  induction t generalizing run with
  | nil => exact readsQuotes_basicBody.read_replicate hrest 0 (by decide)
  | cons c t ih =>
    unfold writeBasic
    by_cases hquote : c = '"'
    · subst hquote
      rw [if_pos rfl]
      by_cases hbare : true = true ∧ run < 2
      · rw [if_pos hbare]
        exact readsQuotes_basicBody.read_quote hrest (not_prefix_writeBasic run t) (ih (run + 1))
      · rw [if_neg hbare, List.cons_append, List.cons_append, basicBody_escape rfl, ih]
        rfl
    · rw [if_neg hquote, List.append_assoc, basicBody_escapeBasic true hquote, ih]
      rfl

end Basic

section Literal
variable {multi : Bool} {c : Char} {rest : Text}

theorem literalBody_plain (hplain : isPlain c = true ∨ multi = true ∧ c = '\n')
    (hquote : c ≠ '\'') :
    literalBody multi (c :: rest) = (literalBody multi rest).map (prepend c) := by
  have hreturn := ne_return_of_plain hplain
  simp [literalBody, hreturn, hquote, hplain]

theorem holds_literal_iff {t : Text} : Delimiter.holds t .literal = true ↔
    (∀ c ∈ t, isControl c = false) ∧ '\'' ∉ t ∧ '\n' ∉ t := by
  simp only [Delimiter.holds, Bool.and_eq_true, Bool.not_eq_true', List.any_eq_false,
    Bool.not_eq_true, List.contains_eq_mem, decide_eq_false_iff_not, and_assoc]

/-- A literal string on one line. -/
theorem literalBody_of_holds {t : Text} (h : Delimiter.holds t .literal = true) (rest : Text) :
    literalBody false (t ++ '\'' :: rest) = some (t, rest) := by
  rw [holds_literal_iff] at h
  obtain ⟨hcontrol, hquote, hbreak⟩ := h
  induction t with
  | nil => simp [literalBody]
  | cons c t ih =>
    obtain ⟨hcontrol, hcontrols⟩ := List.forall_mem_cons.1 hcontrol
    have hplain := isPlain_or_of_not_isControl hcontrol
    have hc : c ≠ '\'' := fun heq => hquote (heq ▸ List.mem_cons_self)
    have hc' : c ≠ '\n' := fun heq => hbreak (heq ▸ List.mem_cons_self)
    rw [List.cons_append, literalBody_plain (.inl (hplain.resolve_right hc')) hc,
      ih hcontrols (fun hmem => hquote (List.mem_cons_of_mem c hmem))
        (fun hmem => hbreak (List.mem_cons_of_mem c hmem))]
    rfl

theorem readsQuotes_literalBody : ReadsQuotes '\'' (literalBody true) := by
  constructor
  · intro after
    simp [literalBody]
  · intro after hfew
    have hmatch : ∀ rest, after = '\'' :: '\'' :: rest → False := by
      rintro rest rfl
      exact hfew ⟨rest, rfl⟩
    simp [literalBody]

theorem le_longestRun (q : Char) (run : Nat) (t : Text) : run ≤ longestRun q run t := by
  induction t generalizing run with
  | nil => exact Nat.le_refl run
  | cons c t ih =>
    unfold longestRun
    split_ifs with hc
    · exact Nat.le_of_succ_le (ih (run + 1))
    · exact Nat.le_max_left _ _

theorem not_prefix_of_longestRun {q : Char} {run : Nat} {t : Text}
    (h : longestRun q (run + 1) t ≤ 2) : ¬ [q, q] <+: t := by
  rintro ⟨t, rfl⟩
  have hthree := le_longestRun q (run + 1 + 1 + 1) t
  simp only [List.cons_append, List.nil_append, longestRun, if_true] at h
  omega

/-- A literal string of several lines. -/
theorem literalBody_append_multi {run : Nat} {t : Text} (hcontrol : ∀ c ∈ t, isControl c = false)
    (hrun : longestRun '\'' run t ≤ 2) {rest : Text} (hrest : rest.head? ≠ some '\'') :
    literalBody true (t ++ '\'' :: '\'' :: '\'' :: rest) = some (t, rest) := by
  induction t generalizing run with
  | nil => exact readsQuotes_literalBody.read_replicate hrest 0 (by decide)
  | cons c t ih =>
    obtain ⟨hcontrol, hcontrols⟩ := List.forall_mem_cons.1 hcontrol
    unfold longestRun at hrun
    by_cases hc : c = '\''
    · subst hc
      rw [if_pos rfl] at hrun
      exact readsQuotes_literalBody.read_quote hrest (not_prefix_of_longestRun hrun)
        (ih hcontrols hrun)
    · rw [if_neg hc] at hrun
      have hplain := isPlain_or_of_not_isControl hcontrol
      rw [List.cons_append, literalBody_plain (hplain.imp_right fun heq => ⟨rfl, heq⟩) hc,
        ih hcontrols (Nat.le_trans (Nat.le_max_right _ _) hrun)]
      rfl

end Literal

section Notations
variable {t rest : Text}

theorem string?_basic (h : ¬ ['"', '"'] <+: rest) : string? ('"' :: rest) = basicBody false false rest := by
  have hmatch : ∀ after, rest = '"' :: '"' :: after → False := by
    rintro after rfl
    exact h ⟨after, rfl⟩
  simp [string?]

theorem string?_literal (h : ¬ ['\'', '\''] <+: rest) :
    string? ('\'' :: rest) = literalBody false rest := by
  have hmatch : ∀ after, rest = '\'' :: '\'' :: after → False := by
    rintro after rfl
    exact h ⟨after, rfl⟩
  simp [string?]

/-- The line break that is written behind the opening delimiter is the one that a reader skips. -/
theorem skipFirstBreak_openingBreak {body : Text}
    (h : '\n' ∉ t → body.head? ≠ some '\n' ∧ body.head? ≠ some '\r') :
    skipFirstBreak (openingBreak t ++ body) = body := by
  unfold openingBreak
  by_cases hbreak : '\n' ∈ t
  · rw [if_pos (List.contains_iff_mem.2 hbreak)]
    rfl
  · rw [if_neg (fun hcontains => hbreak (List.contains_iff_mem.1 hcontains)), List.nil_append]
    obtain ⟨hfeed, hreturn⟩ := h hbreak
    unfold skipFirstBreak
    cases body with
    | nil => rfl
    | cons c body =>
      rw [List.head?_cons, ne_eq, Option.some.injEq] at hfeed hreturn
      simp [lineBreak?, hfeed, hreturn]

theorem writeWith_basic_append (t rest : Text) :
    writeWith t .basic ++ rest = '"' :: (writeBasic false 0 t ++ '"' :: rest) := by
  simp [writeWith]

theorem writeWith_literal_append (t rest : Text) :
    writeWith t .literal ++ rest = '\'' :: (t ++ '\'' :: rest) := by
  simp [writeWith]

theorem string?_writeWith_basic (hrest : rest.head? ≠ some '"') :
    string? (writeWith t .basic ++ rest) = some (t, rest) := by
  rw [writeWith_basic_append, string?_basic, basicBody_writeBasic]
  cases t with
  | nil =>
    intro hfront
    exact not_prefix_of_head? hrest (List.cons_prefix_cons.1 hfront).2
  | cons c t =>
    have hescaped : c = '"' → ¬ (false = true ∧ 0 < 2) := fun _ hbare => Bool.false_ne_true hbare.1
    exact not_prefix_of_head? (head?_writeBasic_ne_quote hescaped t _)

theorem string?_writeWith_literal (h : Delimiter.holds t .literal = true)
    (hrest : rest.head? ≠ some '\'') : string? (writeWith t .literal ++ rest) = some (t, rest) := by
  have hquote := (holds_literal_iff.1 h).2.1
  rw [writeWith_literal_append, string?_literal, literalBody_of_holds h]
  cases t with
  | nil =>
    intro hfront
    exact not_prefix_of_head? hrest (List.cons_prefix_cons.1 hfront).2
  | cons c t =>
    refine not_prefix_of_head? ?_
    rw [List.cons_append, List.head?_cons, ne_eq, Option.some.injEq]
    rintro rfl
    exact hquote List.mem_cons_self

theorem string?_writeWith_multiBasic (hrest : rest.head? ≠ some '"') :
    string? (writeWith t .multiBasic ++ rest) = some (t, rest) := by
  have hbody := basicBody_writeBasic_multi 0 t hrest
  have hwritten : writeWith t .multiBasic ++ rest = '"' :: '"' :: '"' ::
      (openingBreak t ++ (writeBasic true 0 t ++ '"' :: '"' :: '"' :: rest)) := by
    simp [writeWith]
  rw [hwritten]
  show basicBody true false (skipFirstBreak _) = _
  rw [skipFirstBreak_openingBreak, hbody]
  intro hbreak
  cases t with
  | nil => exact ⟨by simp [writeBasic], by simp [writeBasic]⟩
  | cons c t =>
    have hc : c ≠ '\n' := fun heq => hbreak (heq ▸ List.mem_cons_self)
    rcases head?_writeBasic true 0 c t ('"' :: '"' :: '"' :: rest) with hhead | ⟨hhead, hcontrol, -⟩
    · rw [hhead]
      decide
    · rw [hhead]
      refine ⟨by simpa using hc, ?_⟩
      rw [ne_eq, Option.some.injEq]
      rintro rfl
      exact absurd hcontrol (by decide)

theorem string?_writeWith_multiLiteral (h : Delimiter.holds t .multiLiteral = true)
    (hrest : rest.head? ≠ some '\'') :
    string? (writeWith t .multiLiteral ++ rest) = some (t, rest) := by
  simp only [Delimiter.holds, Bool.and_eq_true, Bool.not_eq_true', List.any_eq_false,
    Bool.not_eq_true, decide_eq_true_eq] at h
  obtain ⟨hcontrol, hrun⟩ := h
  have hbody := literalBody_append_multi hcontrol hrun hrest
  have hwritten : writeWith t .multiLiteral ++ rest = '\'' :: '\'' :: '\'' ::
      (openingBreak t ++ (t ++ '\'' :: '\'' :: '\'' :: rest)) := by
    simp [writeWith]
  rw [hwritten]
  show literalBody true (skipFirstBreak _) = _
  rw [skipFirstBreak_openingBreak, hbody]
  intro hbreak
  cases t with
  | nil => exact ⟨by simp, by simp⟩
  | cons c t =>
    rw [List.cons_append, List.head?_cons, ne_eq, Option.some.injEq, ne_eq, Option.some.injEq]
    constructor
    · rintro rfl
      exact hbreak List.mem_cons_self
    · rintro rfl
      exact absurd (hcontrol '\r' List.mem_cons_self) (by decide)

theorem holds_choose {delimiter : Delimiter} (h : Delimiter.choose t = delimiter)
    (hbasic : delimiter ≠ .basic) (hmulti : delimiter ≠ .multiBasic) :
    Delimiter.holds t delimiter = true := by
  unfold Delimiter.choose at h
  split at h
  · next found hfound =>
    subst h
    exact List.find?_some hfound
  · split_ifs at h
    · exact absurd h.symm hmulti
    · exact absurd h.symm hbasic

/-- Every string that is written is read back. -/
theorem string?_writeString (t : Text) (hbasic : rest.head? ≠ some '"')
    (hliteral : rest.head? ≠ some '\'') : string? (writeString t ++ rest) = some (t, rest) := by
  unfold writeString
  cases hchoose : Delimiter.choose t with
  | basic => exact string?_writeWith_basic hbasic
  | literal => exact string?_writeWith_literal (holds_choose hchoose (by decide) (by decide)) hliteral
  | multiBasic => exact string?_writeWith_multiBasic hbasic
  | multiLiteral =>
    exact string?_writeWith_multiLiteral (holds_choose hchoose (by decide) (by decide)) hliteral

theorem key?_bare {key : Text} (hne : key ≠ []) (hbare : ∀ c ∈ key, isBare c = true)
    (hrest : rest.takeWhile isBare = []) : key? (key ++ rest) = some (key, rest) := by
  have htake : (key ++ rest).takeWhile isBare = key := by
    rw [List.takeWhile_append_of_pos hbare, hrest, List.append_nil]
  have hdrop : (key ++ rest).dropWhile isBare = rest := by
    have hwhole := List.takeWhile_append_dropWhile (p := isBare) (l := key ++ rest)
    rw [htake] at hwhole
    exact List.append_cancel_left hwhole
  obtain ⟨c, key', rfl⟩ := List.exists_cons_of_ne_nil hne
  have hc := hbare c List.mem_cons_self
  unfold key?
  split
  · next heq =>
    obtain rfl := (List.cons.inj heq).1
    exact absurd hc (by decide)
  · next heq =>
    obtain rfl := (List.cons.inj heq).1
    exact absurd hc (by decide)
  · rw [htake, hdrop]

/-- Every key that is written is read back. -/
theorem key?_writeKey (key rest : Text) (hrest : rest.takeWhile isBare = []) :
    key? (writeKey key ++ rest) = some (key, rest) := by
  unfold writeKey
  split_ifs with hbare hliteral
  · exact key?_bare hbare.1 (List.all_eq_true.1 hbare.2) hrest
  · rw [Bool.and_eq_true] at hliteral
    rw [writeWith_literal_append]
    exact literalBody_of_holds hliteral.2 rest
  · rw [writeWith_basic_append]
    exact basicBody_writeBasic 0 key rest

end Notations

end RuntimeLauncher.Toml
