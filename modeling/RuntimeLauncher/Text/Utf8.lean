import RuntimeLauncher.Text.Basic

/-! UTF-8: writing text as bytes, reading it back strictly, and reading it with replacements. -/
namespace RuntimeLauncher.Utf8

/-- A byte after the first: it carries the last six bits of `n`. -/
def tailByte (n : Nat) : UInt8 := UInt8.ofNat (0x80 + n % 64)

/-- One to four bytes, six bits to each byte after the first. -/
def encodeChar (c : Char) : Bytes :=
  let n := c.toNat
  if n < 0x80 then [UInt8.ofNat n]
  else if n < 0x800 then [UInt8.ofNat (0xC0 + n / 64), tailByte n]
  else if n < 0x10000 then [UInt8.ofNat (0xE0 + n / 4096), tailByte (n / 64), tailByte n]
  else [UInt8.ofNat (0xF0 + n / 262144), tailByte (n / 4096), tailByte (n / 64), tailByte n]

def encode (t : Text) : Bytes := t.flatMap encodeChar

/-- The character with a code of at least `least`. Surrogate codes and codes past the last plane
have none. -/
def charOf (least n : Nat) : Option Char :=
  if h : least ≤ n ∧ n.isValidChar then some ⟨n.toUInt32, by
    have hn : n < 4294967296 := by
      have := h.2
      simp only [Nat.isValidChar] at this
      omega
    simpa [UInt32.isValidChar, Nat.toUInt32, Nat.mod_eq_of_lt hn] using h.2⟩
  else none

def tailBits (b : UInt8) : Option Nat :=
  if 0x80 ≤ b.toNat ∧ b.toNat < 0xC0 then some (b.toNat - 0x80) else none

/-- For a first byte past ASCII: how many bytes follow, the bits it carries, and the least code that
needs so many bytes. -/
def header (n : Nat) : Option (Nat × Nat × Nat) :=
  if n < 0xC0 then none
  else if n < 0xE0 then some (0, n - 0xC0, 0x80)
  else if n < 0xF0 then some (1, n - 0xE0, 0x800)
  else if n < 0xF8 then some (2, n - 0xF0, 0x10000)
  else none

mutual

/-- Text whose encoding is the whole of the bytes. Overlong forms are refused. -/
def decode : Bytes → Option Text
  | [] => some []
  | a :: rest =>
    if a.toNat < 0x80 then (decode rest).map (Char.ofNat a.toNat :: ·)
    else match header a.toNat with
      | none => none
      | some (more, bits, least) => decodeTail more bits least rest

/-- Reads `more + 1` further bytes of a character before the text that follows it. -/
def decodeTail (more bits least : Nat) : Bytes → Option Text
  | [] => none
  | b :: rest =>
    match tailBits b with
    | none => none
    | some low =>
      match more with
      | 0 => (charOf least (bits * 64 + low)).bind fun c => (decode rest).map (c :: ·)
      | more + 1 => decodeTail more (bits * 64 + low) least rest

end

/-- The number of bytes after a lead byte and the range of the first of them. -/
def lead (b : UInt8) : Option (Nat × UInt8 × UInt8) :=
  if b < 0x80 then some (0, 0, 0)
  else if b < 0xC2 then none
  else if b < 0xE0 then some (1, 0x80, 0xBF)
  else if b == 0xE0 then some (2, 0xA0, 0xBF)
  else if b == 0xED then some (2, 0x80, 0x9F)
  else if b < 0xF0 then some (2, 0x80, 0xBF)
  else if b == 0xF0 then some (3, 0x90, 0xBF)
  else if b < 0xF4 then some (3, 0x80, 0xBF)
  else if b == 0xF4 then some (3, 0x80, 0x8F)
  else none

/-- How many of the next bytes continue a character that still wants `count` of them. -/
def tailLength : Nat → UInt8 → UInt8 → Bytes → Nat
  | 0, _, _, _ => 0
  | _ + 1, _, _, [] => 0
  | count + 1, low, high, b :: rest =>
    if low ≤ b && b ≤ high then 1 + tailLength count 0x80 0xBF rest else 0

/-- Reads at most `fuel` characters; the longest start of a character that is not completed
becomes one replacement character. -/
def decodeReplacing : Nat → Bytes → Text
  | 0, _ => []
  | _, [] => []
  | fuel + 1, a :: rest =>
    match lead a with
    | none => '\ufffd' :: decodeReplacing fuel rest
    | some (count, low, high) =>
      let n := tailLength count low high rest
      if n = count then
        (decode (a :: rest.take n)).getD [] ++ decodeReplacing fuel (rest.drop n)
      else '\ufffd' :: decodeReplacing fuel (rest.drop n)

/-- Text for bytes of any kind: ill-formed parts are replaced. -/
def decodeLossy (bytes : Bytes) : Text := decodeReplacing bytes.length bytes

theorem charOf_toNat (c : Char) {least : Nat} (h : least ≤ c.toNat) :
    charOf least c.toNat = some c := by
  have hv : c.toNat.isValidChar := c.valid
  rw [charOf, dif_pos ⟨h, hv⟩]
  refine congrArg some (Char.ext (UInt32.toNat_inj.1 ?_))
  exact UInt32.toNat_ofNat_of_lt' c.val.toNat_lt

private theorem toNat_ofNat {n : Nat} (h : n < 256) : (UInt8.ofNat n).toNat = n :=
  UInt8.toNat_ofNat_of_lt' h

theorem tailBits_tailByte (n : Nat) : tailBits (tailByte n) = some (n % 64) := by
  have h : (tailByte n).toNat = 0x80 + n % 64 := toNat_ofNat (by omega)
  rw [tailBits, h, if_pos (by omega)]
  exact congrArg some (by omega)

private theorem decode_cons {n more bits least : Nat} (rest : Bytes) (hn : n < 256)
    (ha : 0x80 ≤ n) (h : header n = some (more, bits, least)) :
    decode (UInt8.ofNat n :: rest) = decodeTail more bits least rest := by
  rw [decode, toNat_ofNat hn, if_neg (by omega), h]

private theorem decodeTail_more (n more bits least : Nat) (rest : Bytes) :
    decodeTail (more + 1) bits least (tailByte n :: rest) =
      decodeTail more (bits * 64 + n % 64) least rest := by
  simp only [decodeTail, tailBits_tailByte]

private theorem decodeTail_last (c : Char) {n bits least : Nat} (rest : Bytes)
    (hn : bits * 64 + n % 64 = c.toNat) (h : least ≤ c.toNat) :
    decodeTail 0 bits least (tailByte n :: rest) = (decode rest).map (c :: ·) := by
  simp only [decodeTail, tailBits_tailByte, hn, charOf_toNat c h, Option.bind_some]

theorem decode_encodeChar_append (c : Char) (rest : Bytes) :
    decode (encodeChar c ++ rest) = (decode rest).map (c :: ·) := by
  have hc : c.toNat < 0x110000 := by
    have : c.toNat.isValidChar := c.valid
    simp only [Nat.isValidChar] at this
    omega
  by_cases h1 : c.toNat < 0x80
  · rw [encodeChar, if_pos h1, List.cons_append, List.nil_append, decode, toNat_ofNat (by omega),
      if_pos h1, Char.ofNat_toNat]
  by_cases h2 : c.toNat < 0x800
  · have hh : header (0xC0 + c.toNat / 64) = some (0, c.toNat / 64, 0x80) := by
      rw [header, if_neg (by omega), if_pos (by omega), Nat.add_sub_cancel_left]
    rw [encodeChar, if_neg h1, if_pos h2, List.cons_append, List.cons_append, List.nil_append,
      decode_cons _ (by omega) (by omega) hh, decodeTail_last c _ (by omega) (by omega)]
  by_cases h3 : c.toNat < 0x10000
  · have hh : header (0xE0 + c.toNat / 4096) = some (1, c.toNat / 4096, 0x800) := by
      rw [header, if_neg (by omega), if_neg (by omega), if_pos (by omega), Nat.add_sub_cancel_left]
    rw [encodeChar, if_neg h1, if_neg h2, if_pos h3, List.cons_append, List.cons_append,
      List.cons_append, List.nil_append, decode_cons _ (by omega) (by omega) hh, decodeTail_more,
      decodeTail_last c _ (by omega) (by omega)]
  · have hh : header (0xF0 + c.toNat / 262144) = some (2, c.toNat / 262144, 0x10000) := by
      rw [header, if_neg (by omega), if_neg (by omega), if_neg (by omega), if_pos (by omega),
        Nat.add_sub_cancel_left]
    rw [encodeChar, if_neg h1, if_neg h2, if_neg h3, List.cons_append, List.cons_append,
      List.cons_append, List.cons_append, List.nil_append, decode_cons _ (by omega) (by omega) hh,
      decodeTail_more, decodeTail_more, decodeTail_last c _ (by omega) (by omega)]

theorem decode_encode (t : Text) : decode (encode t) = some t := by
  induction t with
  | nil => rw [encode, List.flatMap_nil, decode]
  | cons c t ih =>
    rw [encode, List.flatMap_cons, decode_encodeChar_append, ← encode, ih, Option.map_some]

end RuntimeLauncher.Utf8
