import RuntimeLauncher.Proofs.Toml.Keys
import RuntimeLauncher.Proofs.Toml.Strings
import RuntimeLauncher.Text.Characters

/-! Documents of entries are read back: a line gives its entry, and lines with distinct keys give
them all. -/
namespace RuntimeLauncher.Toml

def line (entry : Text × Text) : Text := writeKey entry.1 ++ " = ".toList ++ writeString entry.2

/-- Lines of entries with breaks between them. There may be one more at the end. -/
inductive Lines : List (Text × Text) → Text → Prop
  | none : Lines [] []
  | last (entry : Text × Text) : Lines [entry] (line entry)
  | more (entry : Text × Text) {entries : List (Text × Text)} {t : Text} (h : Lines entries t) :
    Lines (entry :: entries) (line entry ++ '\n' :: t)

/-- The table that entries make. -/
def tableOf (entries : List (Text × Text)) : Table := entries.map fun entry => (entry.1, .string entry.2)

/-- What stands behind the entry of a line. -/
def AtLineEnd (rest : Text) : Prop := rest = [] ∨ rest.head? = some '\n'

theorem skipSpaces_eq_self {t : Text} (hspace : t.head? ≠ some ' ') (htab : t.head? ≠ some '\t') :
    skipSpaces t = t := by
  unfold skipSpaces
  cases t with
  | nil => rfl
  | cons c t =>
    rw [List.head?_cons, ne_eq, Option.some.injEq] at hspace htab
    exact List.dropWhile_cons_of_neg (by simp [isSpace, hspace, htab])

section Line
variable {entry : Text × Text} {rest : Text}

theorem line_append (entry : Text × Text) (rest : Text) :
    line entry ++ rest =
      writeKey entry.1 ++ ' ' :: '=' :: ' ' :: (writeString entry.2 ++ rest) := by
  simp [line]

/-- A key begins with a character of its own or with a quote. -/
theorem exists_writeKey_eq_cons (key : Text) :
    ∃ c t, writeKey key = c :: t ∧ (isBare c = true ∨ c = '"' ∨ c = '\'') := by
  unfold writeKey
  split_ifs with hbare hliteral
  · obtain ⟨c, t, hkey⟩ := List.exists_cons_of_ne_nil hbare.1
    exact ⟨c, t, hkey, .inl (List.all_eq_true.1 hbare.2 c (hkey ▸ List.mem_cons_self))⟩
  · exact ⟨'\'', _, rfl, .inr (.inr rfl)⟩
  · exact ⟨'"', _, rfl, .inr (.inl rfl)⟩

/-- No key begins with a mark that means something else at the start of a line. -/
theorem head?_writeKey_append_ne (key rest : Text) (mark : Char) (hbare : isBare mark = false)
    (hquote : mark ≠ '"') (hliteral : mark ≠ '\'') :
    (writeKey key ++ rest).head? ≠ some mark := by
  obtain ⟨c, t, hkey, hc⟩ := exists_writeKey_eq_cons key
  rw [hkey, List.cons_append, List.head?_cons, ne_eq, Option.some.injEq]
  rintro rfl
  rcases hc with hc | hc | hc
  · rw [hbare] at hc
    contradiction
  · exact hquote hc
  · exact hliteral hc

theorem skipSpaces_writeKey_append (key rest : Text) :
    skipSpaces (writeKey key ++ rest) = writeKey key ++ rest := by
  apply skipSpaces_eq_self
  · exact head?_writeKey_append_ne key rest ' ' (by decide) (by decide) (by decide)
  · exact head?_writeKey_append_ne key rest '\t' (by decide) (by decide) (by decide)

theorem nextLine?_writeKey_append (key rest : Text) : nextLine? (writeKey key ++ rest) = none := by
  have hstart := head?_writeKey_append_ne key rest
  have hcomment := hstart '#' (by decide) (by decide) (by decide)
  have hfeed := hstart '\n' (by decide) (by decide) (by decide)
  have hreturn := hstart '\r' (by decide) (by decide) (by decide)
  obtain ⟨c, t, hkey, -⟩ := exists_writeKey_eq_cons key
  unfold nextLine?
  rw [skipSpaces_writeKey_append]
  rw [hkey, List.cons_append, List.head?_cons, ne_eq, Option.some.injEq] at hcomment hfeed hreturn
  rw [hkey, List.cons_append]
  simp [skipComment, lineBreak?, hcomment, hfeed, hreturn]

theorem dottedKey?_writeKey (most : Nat) (key rest : Text) :
    dottedKey? (most + 1) (writeKey key ++ ' ' :: '=' :: rest) = some ([key], '=' :: rest) := by
  have hkey := key?_writeKey key (' ' :: '=' :: rest) rfl
  unfold dottedKey?
  rw [skipSpaces_writeKey_append, hkey]
  rfl

theorem exists_writeString_eq_cons (t : Text) :
    ∃ c body, writeString t = c :: body ∧ (c = '"' ∨ c = '\'') := by
  unfold writeString
  cases Delimiter.choose t with
  | basic => exact ⟨'"', _, rfl, .inl rfl⟩
  | literal => exact ⟨'\'', _, rfl, .inr rfl⟩
  | multiBasic => exact ⟨'"', _, rfl, .inl rfl⟩
  | multiLiteral => exact ⟨'\'', _, rfl, .inr rfl⟩

theorem skipSpaces_writeString_append (t rest : Text) :
    skipSpaces (' ' :: (writeString t ++ rest)) = writeString t ++ rest := by
  obtain ⟨c, body, hwritten, hc⟩ := exists_writeString_eq_cons t
  rw [hwritten]
  rcases hc with rfl | rfl
  · rfl
  · rfl

theorem value?_writeString (depth : Nat) (t : Text) (hrest : AtLineEnd rest) :
    value? depth (writeString t ++ rest) = some (.string t, rest) := by
  have hquote {q : Char} (hq : q ≠ '\n') : rest.head? ≠ some q := by
    intro hhead
    rcases hrest with hend | hbreak
    · rw [hend] at hhead
      contradiction
    · exact hq (Option.some.inj (hhead.symm.trans hbreak))
  have hscalar : scalar? (writeString t ++ rest) = some (.string t, rest) := by
    unfold scalar?
    rw [string?_writeString t (hquote (by decide)) (hquote (by decide))]
  obtain ⟨c, body, hwritten, hc⟩ := exists_writeString_eq_cons t
  rw [hwritten, List.cons_append] at hscalar ⊢
  cases depth with
  | zero => exact hscalar
  | succ depth =>
    unfold value?
    rcases hc with rfl | rfl
    · exact hscalar
    · exact hscalar

theorem assignment?_line (entry : Text × Text) (hrest : AtLineEnd rest) :
    assignment? (value? maxDepth) (line entry ++ rest) =
      some ([entry.1], .string entry.2, rest) := by
  have hpath := dottedKey?_writeKey 78 entry.1 (' ' :: (writeString entry.2 ++ rest))
  have hafter (t : Text) : after? '=' ('=' :: t) = some t := rfl
  unfold assignment?
  rw [line_append, show maxDepth = 78 + 1 from rfl, hpath, Option.bind_eq_bind, Option.bind_some]
  dsimp only
  rw [hafter, Option.bind_eq_bind, Option.bind_some, skipSpaces_writeString_append,
    value?_writeString _ _ hrest]
  rfl

theorem assign_key {root : Table} {key : Text} (hkey : root.lookup key = none) (value : Value) :
    Progress.assign ⟨root, []⟩ [key] value = some ⟨root ++ [(key, value)], []⟩ := by
  have hadd : root.add key value = some (root ++ [(key, value)]) := by
    unfold Table.add
    rw [hkey]
  have hassign : root.assign [key] value .header = some (root ++ [(key, value)]) := by
    rw [← hadd]
    rfl
  unfold Progress.assign Table.updateAt
  dsimp only
  rw [hassign]
  rfl

theorem statement?_line {root : Table} (hkey : root.lookup entry.1 = none) (hrest : AtLineEnd rest) :
    Progress.statement? ⟨root, []⟩ (line entry ++ rest) =
      some (⟨root ++ [(entry.1, .string entry.2)], []⟩, rest) := by
  have hassignment := assignment?_line entry hrest
  have hbracket : (line entry ++ rest).head? ≠ some '[' := by
    rw [line_append]
    exact head?_writeKey_append_ne entry.1 _ '[' (by decide) (by decide) (by decide)
  generalize line entry ++ rest = t at hassignment hbracket
  unfold Progress.statement?
  split
  · exact absurd rfl hbracket
  · exact absurd rfl hbracket
  · rw [hassignment, Option.bind_eq_bind, Option.bind_some]
    dsimp only
    rw [assign_key hkey]
    rfl

/-- A line gives its entry, and the lines after it are read with this entry in the table. -/
theorem lines?_line (fuel : Nat) {root : Table} (hkey : root.lookup entry.1 = none)
    (hrest : AtLineEnd rest) :
    Progress.lines? (fuel + 1) ⟨root, []⟩ (line entry ++ rest) =
      (nextLine? rest).bind
        (Progress.lines? fuel ⟨root ++ [(entry.1, .string entry.2)], []⟩) := by
  have hstatement := statement?_line hkey hrest
  have hnext : nextLine? (line entry ++ rest) = none := by
    rw [line_append]
    exact nextLine?_writeKey_append entry.1 _
  have hspaces : skipSpaces (line entry ++ rest) = line entry ++ rest := by
    rw [line_append]
    exact skipSpaces_writeKey_append entry.1 _
  have hne : line entry ++ rest ≠ [] := by
    obtain ⟨c, t, hwritten, -⟩ := exists_writeKey_eq_cons entry.1
    rw [line_append, hwritten]
    exact List.cons_ne_nil _ _
  generalize line entry ++ rest = t at hstatement hnext hspaces hne
  rw [Progress.lines?, hspaces]
  split
  · contradiction
  · rw [hnext, hstatement]
    rfl

end Line

theorem lookup_of_distinct {root : Table} {entry : Text × Text} {entries : List (Text × Text)}
    (h : Table.Distinct (root ++ tableOf (entry :: entries))) : root.lookup entry.1 = none := by
  rw [lookup_eq_none_iff_not_mem]
  unfold Table.Distinct tableOf at h
  rw [List.map_cons, List.map_append, List.map_cons, List.nodup_append] at h
  intro hmem
  exact h.2.2 _ hmem _ List.mem_cons_self rfl

theorem lines?_nil {fuel : Nat} (hfuel : 0 < fuel) (root : Table) :
    Progress.lines? fuel ⟨root, []⟩ [] = some root := by
  cases fuel with
  | zero => contradiction
  | succ fuel => rfl

/-- Lines give their entries one after the other. -/
theorem lines?_of_lines {entries : List (Text × Text)} {t : Text} (h : Lines entries t) {fuel : Nat}
    (hfuel : entries.length < fuel) {root : Table}
    (hkeys : Table.Distinct (root ++ tableOf entries)) :
    Progress.lines? fuel ⟨root, []⟩ t = some (root ++ tableOf entries) := by
  induction h generalizing fuel root with
  | none =>
    have hroot : root ++ tableOf [] = root := List.append_nil root
    rw [hroot]
    exact lines?_nil hfuel root
  | last entry =>
    cases fuel with
    | zero => contradiction
    | succ fuel =>
      have hend : AtLineEnd [] := .inl rfl
      have hline := lines?_line fuel (lookup_of_distinct hkeys) hend
      rw [List.append_nil] at hline
      rw [hline]
      exact lines?_nil (Nat.lt_of_succ_lt_succ hfuel) _
  | @more entry entries t h ih =>
    cases fuel with
    | zero => contradiction
    | succ fuel =>
      have hend : AtLineEnd ('\n' :: t) := .inr rfl
      have hline := lines?_line fuel (lookup_of_distinct hkeys) hend
      have hassoc : root ++ tableOf (entry :: entries) =
          (root ++ [(entry.1, .string entry.2)]) ++ tableOf entries :=
        (List.append_assoc root [(entry.1, .string entry.2)] (tableOf entries)).symm
      rw [hassoc] at hkeys
      rw [hline, hassoc]
      exact ih (Nat.lt_of_succ_lt_succ hfuel) hkeys

theorem Lines.length_le {entries : List (Text × Text)} {t : Text} (h : Lines entries t) :
    entries.length ≤ t.length := by
  induction h with
  | none => exact Nat.le_refl 0
  | last entry =>
    obtain ⟨c, t, hwritten, -⟩ := exists_writeKey_eq_cons entry.1
    unfold line
    rw [hwritten]
    simp
  | more entry h ih =>
    rw [List.length_cons, List.length_append, List.length_cons]
    omega

theorem Lines.head?_ne {entries : List (Text × Text)} {t : Text} (h : Lines entries t) (mark : Char)
    (hbare : isBare mark = false) (hquote : mark ≠ '"') (hliteral : mark ≠ '\'') :
    t.head? ≠ some mark := by
  cases h with
  | none => exact Option.some_ne_none mark |>.symm
  | last entry =>
    have hline := line_append entry []
    rw [List.append_nil] at hline
    rw [hline]
    exact head?_writeKey_append_ne entry.1 _ mark hbare hquote hliteral
  | more entry h =>
    rw [line_append]
    exact head?_writeKey_append_ne entry.1 _ mark hbare hquote hliteral

theorem parse_of_lines {entries : List (Text × Text)} {t : Text} (h : Lines entries t)
    (hkeys : (entries.map (·.1)).Nodup) : parse t = some (tableOf entries) := by
  have hmark : after? '\ufeff' t = none := by
    have hhead := h.head?_ne '\ufeff' (by decide) (by decide) (by decide)
    apply stripStart_eq_none_iff.2
    rintro ⟨rest, rfl⟩
    exact hhead rfl
  have hdistinct : Table.Distinct ([] ++ tableOf entries) := by
    unfold Table.Distinct tableOf
    rw [List.nil_append, List.map_map]
    exact hkeys
  unfold parse
  rw [hmark]
  exact lines?_of_lines h (Nat.lt_succ_of_le h.length_le) hdistinct

theorem strings?_tableOf (entries : List (Text × Text)) :
    (tableOf entries).strings? = some entries := by
  induction entries with
  | nil => rfl
  | cons entry entries ih =>
    unfold Table.strings? at ih
    unfold Table.strings?
    rw [show tableOf (entry :: entries) = (entry.1, .string entry.2) :: tableOf entries from rfl,
      List.mapM_cons, ih]
    rfl

/-- Entries with distinct keys are read back from their lines. -/
theorem strings?_of_lines {entries : List (Text × Text)} {t : Text} (h : Lines entries t)
    (hkeys : (entries.map (·.1)).Nodup) : (parse t).bind Table.strings? = some entries := by
  rw [parse_of_lines h hkeys, Option.bind_some, strings?_tableOf]

theorem write_cons (entry : Text × Text) (entries : List (Text × Text)) :
    write (entry :: entries) = line entry ++ '\n' :: write entries := by
  simp [write, line]

theorem lines_write (entries : List (Text × Text)) : Lines entries (write entries) := by
  induction entries with
  | nil => exact .none
  | cons entry entries ih =>
    rw [write_cons]
    exact .more entry ih

/-- The last character of a line is a quote. -/
theorem exists_line_eq_append (entry : Text × Text) :
    ∃ front c, line entry = front ++ [c] ∧ isBlank c = false := by
  have hwritten : ∃ body c, writeString entry.2 = body ++ [c] ∧ isBlank c = false := by
    unfold writeString writeWith
    cases Delimiter.choose entry.2 with
    | basic => exact ⟨_, '"', rfl, rfl⟩
    | literal => exact ⟨_, '\'', rfl, rfl⟩
    | multiBasic => exact ⟨_, '"', (List.append_assoc _ ['"', '"'] ['"']).symm, rfl⟩
    | multiLiteral => exact ⟨_, '\'', (List.append_assoc _ ['\'', '\''] ['\'']).symm, rfl⟩
  obtain ⟨body, c, hbody, hc⟩ := hwritten
  unfold line
  rw [hbody, ← List.append_assoc]
  exact ⟨_, c, rfl, hc⟩

/-- All that can be trimmed from a document is its last line break. -/
theorem exists_write_eq_append {entries : List (Text × Text)} (h : entries ≠ []) :
    ∃ front c, write entries = front ++ [c] ++ ['\n'] ∧ isBlank c = false ∧
      Lines entries (front ++ [c]) := by
  induction entries with
  | nil => contradiction
  | cons entry entries ih =>
    rw [write_cons]
    cases entries with
    | nil =>
      obtain ⟨front, c, hline, hc⟩ := exists_line_eq_append entry
      have hlast := Lines.last entry
      rw [hline] at hlast ⊢
      exact ⟨front, c, rfl, hc, hlast⟩
    | cons next entries =>
      obtain ⟨front, c, hwritten, hc, hlines⟩ := ih (List.cons_ne_nil next entries)
      refine ⟨line entry ++ '\n' :: front, c, ?_, hc, ?_⟩
      · rw [hwritten]
        simp
      · have hmore := Lines.more entry hlines
        simpa using hmore

theorem trimEnd_append {c : Char} (hc : isBlank c = false) (front : Text) :
    Text.trimEnd (front ++ [c] ++ ['\n']) = front ++ [c] := by
  have hbreak : isBlank '\n' = true := rfl
  unfold Text.trimEnd
  rw [List.reverse_append, List.reverse_append, List.reverse_singleton, List.reverse_singleton,
    List.singleton_append, List.singleton_append, List.dropWhile_cons_of_pos hbreak,
    List.dropWhile_cons_of_neg (by simp [hc]), List.reverse_cons, List.reverse_reverse]

theorem lines_trimEnd_write (entries : List (Text × Text)) :
    Lines entries (Text.trimEnd (write entries)) := by
  by_cases hempty : entries = []
  · rw [hempty]
    exact .none
  · obtain ⟨front, c, hwritten, hc, hlines⟩ := exists_write_eq_append hempty
    rw [hwritten, trimEnd_append hc]
    exact hlines

end RuntimeLauncher.Toml
