import RuntimeLauncher.Proofs.Text.Utf8

/-! The order of encoded text, byte by byte, is the order of the text. -/
namespace RuntimeLauncher.Utf8

/-- How many bytes follow the first one of the character with code `n`. -/
def tailCount (n : Nat) : Nat :=
  if n < 0x80 then 0 else if n < 0x800 then 1 else if n < 0x10000 then 2 else 3

/-- The first byte of a character is this and the highest bits of its code. -/
def mark : Nat → Nat
  | 0 => 0
  | 1 => 0xC0
  | 2 => 0xE0
  | _ => 0xF0

def leadByte (n : Nat) : Nat := mark (tailCount n) + n / 64 ^ tailCount n

theorem encodeChar_eq (c : Char) : encodeChar c =
    UInt8.ofNat (leadByte c.toNat) :: tailBytes (tailCount c.toNat) c.toNat := by
  unfold encodeChar leadByte tailCount
  dsimp only
  split_ifs <;> simp [mark, tailBytes]

theorem leadByte_lt {n : Nat} (h : n < 0x110000) : leadByte n < 256 := by
  unfold leadByte tailCount
  split_ifs <;> norm_num [mark] <;> omega

/-- A greater code has a greater first byte, or the same one and as many bytes after it. -/
theorem leadByte_cases {n m : Nat} (h : n < m) (hm : m < 0x110000) : leadByte n < leadByte m ∨
    leadByte n = leadByte m ∧ tailCount n = tailCount m ∧
      n % 64 ^ tailCount n < m % 64 ^ tailCount n := by
  unfold leadByte tailCount
  split_ifs <;> norm_num [mark] <;> omega

theorem tailByte_lt_iff {n m : Nat} : tailByte n < tailByte m ↔ n % 64 < m % 64 := by
  rw [tailByte, tailByte, UInt8.lt_iff_toNat_lt, UInt8.toNat_ofNat', UInt8.toNat_ofNat']
  omega

theorem tailByte_congr {n m : Nat} (h : n % 64 = m % 64) : tailByte n = tailByte m := by
  rw [tailByte, tailByte, h]

/-- The last bytes are the digits of the code to base 64, the highest first. -/
theorem tailBytes_append_lt {count n m : Nat} (h : n % 64 ^ count < m % 64 ^ count)
    (s t : Bytes) : tailBytes count n ++ s < tailBytes count m ++ t := by
  induction count with
  | zero => simp [Nat.mod_one] at h
  | succ count ih =>
    rw [tailBytes, tailBytes, List.cons_append, List.cons_append, List.cons_lt_cons_iff,
      tailByte_lt_iff]
    rw [Nat.mod_pow_succ, Nat.mod_pow_succ] at h
    rcases Nat.lt_trichotomy (n / 64 ^ count % 64) (m / 64 ^ count % 64) with hlt | heq | hgt
    · exact .inl hlt
    · rw [heq] at h
      exact .inr ⟨tailByte_congr heq, ih (Nat.lt_of_add_lt_add_right h)⟩
    · have hstep := Nat.mul_le_mul_left (64 ^ count) (Nat.succ_le_of_lt hgt)
      have hlow : m % 64 ^ count < 64 ^ count := Nat.mod_lt _ (by positivity)
      rw [Nat.succ_eq_add_one, Nat.mul_add, Nat.mul_one] at hstep
      omega

theorem encodeChar_append_lt {c d : Char} (h : c < d) (s t : Bytes) :
    encodeChar c ++ s < encodeChar d ++ t := by
  have hcode : c.toNat < d.toNat := UInt32.lt_iff_toNat_lt.1 h
  have hc := leadByte_lt (toNat_lt_of_char c)
  have hd := leadByte_lt (toNat_lt_of_char d)
  have hbyte {n : Nat} (hn : n < 256) : (UInt8.ofNat n).toNat = n := by
    rw [UInt8.toNat_ofNat', Nat.mod_eq_of_lt hn]
  rw [encodeChar_eq, encodeChar_eq, List.cons_append, List.cons_append, List.cons_lt_cons_iff,
    UInt8.lt_iff_toNat_lt, hbyte hc, hbyte hd]
  rcases leadByte_cases hcode (toNat_lt_of_char d) with hlt | ⟨hlead, hcount, htail⟩
  · exact .inl hlt
  · refine .inr ⟨congrArg UInt8.ofNat hlead, ?_⟩
    rw [← hcount]
    exact tailBytes_append_lt htail s t

theorem encode_lt_encode {s t : Text} (h : s < t) : encode s < encode t := by
  induction s generalizing t with
  | nil =>
    cases t with
    | nil => exact absurd h (List.lt_irrefl [])
    | cons d t =>
      rw [encode, encode, List.flatMap_nil, List.flatMap_cons, encodeChar_eq, List.cons_append]
      exact List.nil_lt_cons _ _
  | cons c s ih =>
    cases t with
    | nil => exact absurd h (List.not_lt_nil _)
    | cons d t =>
      rw [encode, encode, List.flatMap_cons, List.flatMap_cons, ← encode, ← encode]
      rcases List.cons_lt_cons_iff.1 h with hlt | ⟨rfl, hrest⟩
      · exact encodeChar_append_lt hlt _ _
      · exact List.append_left_lt (ih hrest)

theorem encode_lt_encode_iff {s t : Text} : encode s < encode t ↔ s < t := by
  refine ⟨fun h => ?_, encode_lt_encode⟩
  by_contra hnot
  rcases List.le_iff_lt_or_eq.1 (List.not_lt.1 hnot) with hlt | rfl
  · exact List.lt_asymm h (encode_lt_encode hlt)
  · exact List.lt_irrefl _ h

end RuntimeLauncher.Utf8
