import Mathlib.Tactic
import RuntimeLauncher.Text.Utf8

/-! UTF-8 is read exactly where it is written: bytes that decode are the encoding of their text, and
an ASCII byte in an encoding stands for its own character. -/
namespace RuntimeLauncher.Utf8

def Valid (bytes : Bytes) : Prop := ∃ t : Text, encode t = bytes

/-- The last `count` bytes of a character with code `n`. -/
def tailBytes : Nat → Nat → Bytes
  | 0, _ => []
  | count + 1, n => tailByte (n / 64 ^ count) :: tailBytes count n

private theorem ofNat_eq {n : Nat} {b : UInt8} (h : n = b.toNat) : UInt8.ofNat n = b := by
  rw [h, UInt8.ofNat_toNat]

private theorem tailBits_eq_some {b : UInt8} {low : Nat} (h : tailBits b = some low) :
    low < 64 ∧ b.toNat = 0x80 + low := by
  unfold tailBits at h
  split at h
  · have hlow : b.toNat - 0x80 = low := Option.some.inj h
    omega
  · contradiction

private theorem charOf_eq_some {least n : Nat} {c : Char} (h : charOf least n = some c) :
    least ≤ n ∧ c.toNat = n := by
  unfold charOf at h
  split at h
  · next hv =>
    obtain rfl := Option.some.inj h
    have hn : n < 4294967296 := by
      have := hv.2
      simp only [Nat.isValidChar] at this
      omega
    exact ⟨hv.1, UInt32.toNat_ofNat_of_lt' hn⟩
  · contradiction

/-- What the bytes after the first of a character must be. -/
private theorem decodeTail_eq_some {more bits least : Nat} {bytes : Bytes} {t : Text}
    (h : decodeTail more bits least bytes = some t) :
    ∃ (c : Char) (t' : Text) (rest : Bytes), bytes = tailBytes (more + 1) c.toNat ++ rest ∧
      c.toNat / 64 ^ (more + 1) = bits ∧ least ≤ c.toNat ∧ decode rest = some t' ∧ t = c :: t' := by
  induction more generalizing bits bytes with
  | zero =>
    cases bytes with
    | nil => simp [decodeTail] at h
    | cons b rest =>
      cases hb : tailBits b with
      | none => simp [decodeTail, hb] at h
      | some low =>
        simp only [decodeTail, hb, Option.bind_eq_some_iff, Option.map_eq_some_iff] at h
        obtain ⟨c, hc, t', ht, rfl⟩ := h
        obtain ⟨hlow, hbyte⟩ := tailBits_eq_some hb
        obtain ⟨hleast, hn⟩ := charOf_eq_some hc
        refine ⟨c, t', rest, ?_, by omega, hn ▸ hleast, ht, rfl⟩
        have htail : tailByte c.toNat = b := ofNat_eq (by omega)
        simp [tailBytes, htail]
  | succ more ih =>
    cases bytes with
    | nil => simp [decodeTail] at h
    | cons b rest =>
      cases hb : tailBits b with
      | none => simp [decodeTail, hb] at h
      | some low =>
        simp only [decodeTail, hb] at h
        obtain ⟨c, t', rest', rfl, hbits, hleast, ht, rfl⟩ := ih h
        obtain ⟨hlow, hbyte⟩ := tailBits_eq_some hb
        have htail : tailByte (c.toNat / 64 ^ (more + 1)) = b := ofNat_eq (by omega)
        refine ⟨c, t', rest', ?_, ?_, hleast, ht, rfl⟩
        · rw [← htail]
          rfl
        · rw [pow_succ, ← Nat.div_div_eq_div_mul, hbits]
          omega

/-- The bytes of a character past ASCII: a header and its tail. -/
private theorem encodeChar_eq_of_header {c : Char} {a : UInt8} {more bits least : Nat}
    (hh : header a.toNat = some (more, bits, least)) (hbits : c.toNat / 64 ^ (more + 1) = bits)
    (hleast : least ≤ c.toNat) : encodeChar c = a :: tailBytes (more + 1) c.toNat := by
  unfold header at hh
  split_ifs at hh with h1 h2 h3 h4
  all_goals
    obtain ⟨rfl, rfl, rfl⟩ : _ ∧ _ ∧ _ := by simpa using hh
    norm_num at hbits
  · have ha : UInt8.ofNat (0xC0 + c.toNat / 64) = a := ofNat_eq (by omega)
    simp [encodeChar, tailBytes, ha, show ¬ c.toNat < 0x80 by omega,
      show c.toNat < 0x800 by omega]
  · have ha : UInt8.ofNat (0xE0 + c.toNat / 4096) = a := ofNat_eq (by omega)
    simp [encodeChar, tailBytes, ha, show ¬ c.toNat < 0x80 by omega,
      show ¬ c.toNat < 0x800 by omega, show c.toNat < 0x10000 by omega]
  · have ha : UInt8.ofNat (0xF0 + c.toNat / 262144) = a := ofNat_eq (by omega)
    simp [encodeChar, tailBytes, ha, show ¬ c.toNat < 0x80 by omega,
      show ¬ c.toNat < 0x800 by omega, show ¬ c.toNat < 0x10000 by omega]

private theorem encodeChar_ascii {a : UInt8} (h : a.toNat < 0x80) :
    encodeChar (Char.ofNat a.toNat) = [a] := by
  have hv : a.toNat.isValidChar := Or.inl (by omega)
  have hn : (Char.ofNat a.toNat).toNat = a.toNat := by rw [Char.ofNat, dif_pos hv]; rfl
  rw [encodeChar, hn, if_pos h, UInt8.ofNat_toNat]

theorem encode_of_decode {bytes : Bytes} {t : Text} (h : decode bytes = some t) :
    encode t = bytes := by
  induction hlen : bytes.length using Nat.strong_induction_on generalizing bytes t with
  | _ length ih =>
    cases bytes with
    | nil =>
      obtain rfl : [] = t := by simpa [decode] using h
      rfl
    | cons a rest =>
      rw [decode] at h
      split at h
      · next ha =>
        obtain ⟨t', ht, rfl⟩ := Option.map_eq_some_iff.1 h
        have hrest := ih rest.length (by simp [← hlen]) ht rfl
        rw [encode, List.flatMap_cons, encodeChar_ascii ha, ← encode, hrest, List.singleton_append]
      · cases hh : header a.toNat with
        | none => simp [hh] at h
        | some parts =>
          obtain ⟨more, bits, least⟩ := parts
          simp only [hh] at h
          obtain ⟨c, t', rest', rfl, hbits, hleast, ht, rfl⟩ := decodeTail_eq_some h
          have hrest := ih rest'.length (by simp [← hlen]) ht rfl
          rw [encode, List.flatMap_cons, encodeChar_eq_of_header hh hbits hleast, ← encode, hrest,
            List.cons_append]

theorem decode_eq_some_iff {bytes : Bytes} {t : Text} :
    decode bytes = some t ↔ encode t = bytes :=
  ⟨encode_of_decode, fun h => h ▸ decode_encode t⟩

theorem decode_eq_none_iff {bytes : Bytes} : decode bytes = none ↔ ¬ Valid bytes := by
  simp only [Option.eq_none_iff_forall_ne_some, ne_eq, decode_eq_some_iff, Valid, not_exists]

theorem toNat_lt_of_char (c : Char) : c.toNat < 0x110000 := by
  have hvalid : c.toNat.isValidChar := c.valid
  simp only [Nat.isValidChar] at hvalid
  omega

/-- A character past ASCII has no byte below `80`. -/
theorem le_of_mem_encodeChar {c : Char} (hc : 0x80 ≤ c.toNat) {b : UInt8}
    (h : b ∈ encodeChar c) : 0x80 ≤ b.toNat := by
  have hmax := toNat_lt_of_char c
  simp only [encodeChar, tailByte, if_neg (Nat.not_lt.2 hc)] at h
  split_ifs at h
  all_goals
    simp only [List.mem_cons, List.not_mem_nil, or_false] at h
    rcases h with rfl | h
    · rw [UInt8.toNat_ofNat']
      omega
  · rw [h, UInt8.toNat_ofNat']
    omega
  · rcases h with rfl | rfl <;> rw [UInt8.toNat_ofNat'] <;> omega
  · rcases h with rfl | rfl | rfl <;> rw [UInt8.toNat_ofNat'] <;> omega

theorem mem_encodeChar_iff {a : Char} (ha : a.toNat < 0x80) (c : Char) :
    UInt8.ofNat a.toNat ∈ encodeChar c ↔ a = c := by
  have hbyte : (UInt8.ofNat a.toNat).toNat = a.toNat := by
    rw [UInt8.toNat_ofNat']
    omega
  constructor
  · intro h
    by_cases hc : c.toNat < 0x80
    · rw [encodeChar, if_pos hc, List.mem_singleton, ← UInt8.toNat_inj, hbyte,
        UInt8.toNat_ofNat', Nat.mod_eq_of_lt (by omega)] at h
      exact Char.toNat_inj.1 h
    · have := le_of_mem_encodeChar (Nat.not_lt.1 hc) h
      omega
  · rintro rfl
    rw [encodeChar, if_pos ha]
    exact List.mem_singleton_self _

theorem mem_encode_iff {a : Char} (ha : a.toNat < 0x80) (t : Text) :
    UInt8.ofNat a.toNat ∈ encode t ↔ a ∈ t := by
  simp only [encode, List.mem_flatMap, mem_encodeChar_iff ha, exists_eq_right']

end RuntimeLauncher.Utf8
