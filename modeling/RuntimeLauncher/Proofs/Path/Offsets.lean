import RuntimeLauncher.Proofs.Path.Extensions
import RuntimeLauncher.Text.Utf8

/-! Taking off an extension by byte offsets into a path. Every cut lies between two characters. -/
namespace RuntimeLauncher

namespace Text

/-- The bytes that text takes. -/
def size (t : Text) : Nat := (Utf8.encode t).length

/-- The text before an offset and the text behind it. There is none if the offset lies inside a
character or past the end. -/
def splitAt? : Nat → Text → Option (Text × Text)
  | 0, t => some ([], t)
  | _ + 1, [] => none
  | offset + 1, c :: t =>
    let width := (Utf8.encodeChar c).length
    if width ≤ offset + 1 then
      (splitAt? (offset + 1 - width) t).map fun parts => (c :: parts.1, parts.2)
    else none

/-- The offset of the last character of a kind. -/
def lastOffset? (kind : Char → Bool) : Text → Option Nat
  | [] => none
  | c :: t =>
    match lastOffset? kind t with
    | some offset => some ((Utf8.encodeChar c).length + offset)
    | none => if kind c then some 0 else none

@[simp] theorem size_nil : size [] = 0 := rfl

@[simp] theorem size_cons (c : Char) (t : Text) :
    size (c :: t) = (Utf8.encodeChar c).length + size t := by
  rw [size, Utf8.encode, List.flatMap_cons, List.length_append, size, Utf8.encode]

@[simp] theorem size_append (t u : Text) : size (t ++ u) = size t + size u := by
  rw [size, Utf8.encode, List.flatMap_append, List.length_append, size, size, Utf8.encode,
    Utf8.encode]

theorem length_encodeChar_pos (c : Char) : 0 < (Utf8.encodeChar c).length := by
  unfold Utf8.encodeChar
  dsimp only
  split_ifs <;> exact Nat.succ_pos _

/-- Text is cut at the sizes of its fronts, and nowhere else. -/
theorem splitAt?_eq_some_iff {offset : Nat} {t front back : Text} :
    splitAt? offset t = some (front, back) ↔ t = front ++ back ∧ size front = offset := by
  induction t generalizing offset front back with
  | nil =>
    cases offset with
    | zero => cases front <;> simp [splitAt?, eq_comm]
    | succ offset => cases front <;> simp [splitAt?]
  | cons c t ih =>
    have hpos := length_encodeChar_pos c
    cases offset with
    | zero =>
      cases front with
      | nil => simp [splitAt?, eq_comm]
      | cons a front =>
        have ha := length_encodeChar_pos a
        refine iff_of_false (by simp [splitAt?]) fun h => ?_
        rw [size_cons] at h
        omega
    | succ offset =>
      simp only [splitAt?, Option.ite_none_right_eq_some, Option.map_eq_some_iff, Prod.exists, ih,
        Prod.mk.injEq]
      constructor
      · rintro ⟨hwidth, more, back, ⟨rfl, hsize⟩, rfl, rfl⟩
        refine ⟨rfl, ?_⟩
        rw [size_cons]
        omega
      · rintro ⟨hparts, hsize⟩
        cases front with
        | nil => simp at hsize
        | cons a front =>
          obtain ⟨rfl, rfl⟩ := List.cons.inj hparts
          rw [size_cons] at hsize
          exact ⟨by omega, front, back, ⟨rfl, by omega⟩, rfl, rfl⟩

theorem splitAt?_append (front back : Text) :
    splitAt? (size front) (front ++ back) = some (front, back) :=
  splitAt?_eq_some_iff.2 ⟨rfl, rfl⟩

theorem lastOffset?_of_none {kind : Char → Bool} {t : Text} (h : ∀ c ∈ t, kind c = false) :
    lastOffset? kind t = none := by
  induction t with
  | nil => rfl
  | cons c t ih =>
    obtain ⟨hc, ht⟩ := List.forall_mem_cons.1 h
    simp only [lastOffset?, ih ht, hc, Bool.false_eq_true, if_false]

theorem lastOffset?_append_cons {kind : Char → Bool} {c : Char} {back : Text}
    (hc : kind c = true) (hback : ∀ b ∈ back, kind b = false) (front : Text) :
    lastOffset? kind (front ++ c :: back) = some (size front) := by
  induction front with
  | nil => simp only [List.nil_append, lastOffset?, lastOffset?_of_none hback, hc, if_true, size_nil]
  | cons a front ih => simp only [List.cons_append, lastOffset?, ih, size_cons]

/-- If only the first character may be of a kind, that is where the last one is. -/
theorem lastOffset?_of_tail {kind : Char → Bool} {t : Text} (h : ∀ c ∈ t.tail, kind c = false) :
    lastOffset? kind t = none ∨ lastOffset? kind t = some 0 := by
  cases t with
  | nil => exact .inl rfl
  | cons c t =>
    have hnone : lastOffset? kind t = none := lastOffset?_of_none h
    simp only [lastOffset?, hnone]
    cases kind c
    · exact .inl rfl
    · exact .inr rfl

end Text

namespace Path

/-- The offset of the name behind the last separator. -/
def nameOffset (p : Path) : Nat :=
  match Text.lastOffset? isSeparator p with
  | some offset => offset + 1
  | none => 0

/-- Takes off an extension by offsets. There is no result if a cut lies inside a character. -/
def stripExtension? (p : Path) : Option Path := do
  let (_, name) ← Text.splitAt? (nameOffset p) p
  match Text.lastOffset? (· == '.') name with
  | some (dot + 1) =>
    let (front, _) ← Text.splitAt? (nameOffset p + (dot + 1)) p
    some front
  | _ => some p

section Splits
variable {p d c : Path} (h : Splits p d c)
include h

theorem Splits.nameOffset_eq : nameOffset p = Text.size d := by
  have hplain := bare_iff.1 h.bare
  obtain ⟨rfl, hending, -⟩ := h
  unfold nameOffset
  rcases hending with rfl | ⟨front, rfl | rfl⟩
  · rw [List.nil_append, Text.lastOffset?_of_none hplain, Text.size_nil]
  · rw [List.append_assoc, List.singleton_append, Text.lastOffset?_append_cons rfl hplain,
      Text.size_append]
    rfl
  · rw [List.append_assoc, List.singleton_append, Text.lastOffset?_append_cons rfl hplain,
      Text.size_append]
    rfl

theorem Splits.splitAt?_nameOffset : Text.splitAt? (nameOffset p) p = some (d, c) := by
  rw [h.nameOffset_eq, h.parts]
  exact Text.splitAt?_append d c

end Splits

theorem beq_dot_of_not_mem {t : Text} (h : '.' ∉ t) : ∀ c ∈ t, (c == '.') = false := by
  intro c hc
  rw [beq_eq_false_iff_ne]
  rintro rfl
  exact h hc

/-- By offsets the same is taken off. -/
theorem stripExtension?_eq (p : Path) : stripExtension? p = some (stripExtension p) := by
  obtain ⟨d, c, h⟩ : ∃ d c, Splits p d c := ⟨_, _, exists_splits p⟩
  have hstem := stemOf_stem c
  rw [stripExtension?, h.splitAt?_nameOffset, h.stripExtension_eq]
  generalize stem c = s at hstem
  cases hstem with
  | @cut _ extension hfront hlast =>
    have hdot : Text.lastOffset? (· == '.') (s ++ '.' :: extension) = some (Text.size s) :=
      Text.lastOffset?_append_cons rfl (beq_dot_of_not_mem hlast) s
    obtain ⟨n, hn⟩ : ∃ n, Text.size s = n + 1 := by
      obtain ⟨a, rest, rfl⟩ := List.exists_cons_of_ne_nil hfront
      refine Nat.exists_eq_succ_of_ne_zero ?_
      have ha := Text.length_encodeChar_pos a
      rw [Text.size_cons]
      omega
    have hcut : Text.splitAt? (nameOffset p + (n + 1)) p = some (d ++ s, '.' :: extension) := by
      rw [h.nameOffset_eq, ← hn, ← Text.size_append, Text.splitAt?_eq_some_iff, h.parts,
        List.append_assoc]
      exact ⟨rfl, rfl⟩
    simp only [Option.bind_eq_bind, Option.bind_some, hdot, hn, hcut]
  | whole htail =>
    rcases Text.lastOffset?_of_tail (beq_dot_of_not_mem htail) with hdot | hdot
    · simp only [Option.bind_eq_bind, Option.bind_some, hdot, h.parts]
    · simp only [Option.bind_eq_bind, Option.bind_some, hdot, h.parts]

end Path

end RuntimeLauncher
