import RuntimeLauncher.Proofs.LaunchData.Pieces
import RuntimeLauncher.Proofs.Text.Cuts

/-! Reading launch data by offsets into a binary. Every slice is checked against the bounds, and
none is ever taken outside them. -/
namespace RuntimeLauncher.LaunchData

/-- The bytes from `start` up to `stop`, if both lie in the buffer and in this order. -/
def slice? (bytes : Bytes) (start stop : Nat) : Option Bytes :=
  if start ≤ stop ∧ stop ≤ bytes.length then some ((bytes.take stop).drop start) else none

/-- Decodes the slices of one entry, whose first byte has the offset `base`. -/
def decodeSlices? (base : Nat) (entry : Bytes) : Option (Except Error (Text × Text)) :=
  let equals := entry.findIdx (· == 0x3D)
  if equals = entry.length then some (.error (.missingSeparator base))
  else do
    let key ← slice? entry 0 equals
    let value ← slice? entry (equals + 1) entry.length
    match Utf8.decode key, Utf8.decode value with
    | none, _ => some (.error (.invalidUtf8 base))
    | some _, none => some (.error (.invalidUtf8 (base + equals + 1)))
    | some key, some value => some (.ok (key, value))

/-- Reads the entries of a region from an offset on. The region starts at `start` in its binary. -/
def readFrom? (start : Nat) (region : Bytes) (offset : Nat) (found : LaunchData) :
    Option (Except Error LaunchData) :=
  if offset < region.length then do
    let rest ← slice? region offset region.length
    let stop := offset + rest.findIdx (· == 0)
    let entry ← slice? region offset stop
    match ← decodeSlices? (start + offset) entry with
    | .error error => some (.error error)
    | .ok entry => readFrom? start region (stop + 1) (found.insert entry.1 entry.2)
  else some (.ok found)
termination_by region.length - offset

/-- Reads the launch data at the end of a binary. The result is missing if a slice is out of
bounds. -/
def parseSlices? (bytes : Bytes) : Option (Except Error LaunchData) :=
  if bytes.length < sizeBytes then some (.error (.invalidSize 0 bytes.length))
  else do
    let stop := bytes.length - sizeBytes
    let field ← slice? bytes stop bytes.length
    let size := Signed64.ofWord (ofLittleEndian field)
    if 0 ≤ size ∧ size ≤ stop then do
      let region ← slice? bytes (stop - size.toNat) stop
      readFrom? (stop - size.toNat) region 0 empty
    else some (.error (.invalidSize size bytes.length))

theorem slice?_append (front middle back : Bytes) :
    slice? (front ++ middle ++ back) front.length (front ++ middle).length = some middle := by
  have hbounds : front.length ≤ (front ++ middle).length ∧
      (front ++ middle).length ≤ (front ++ middle ++ back).length := by
    simp only [List.length_append]
    omega
  rw [slice?, if_pos hbounds, List.take_left, List.drop_left]

theorem slice?_end (front back : Bytes) :
    slice? (front ++ back) front.length (front ++ back).length = some back := by
  simpa using slice?_append front back []

theorem slice?_start (front back : Bytes) :
    slice? (front ++ back) 0 front.length = some front := by
  simpa using slice?_append [] front back

theorem findIdx_of_not_mem {b : UInt8} {bytes : Bytes} (h : b ∉ bytes) :
    bytes.findIdx (· == b) = bytes.length :=
  List.findIdx_eq_length_of_false fun _ hx => beq_false_of_ne fun heq => h (heq ▸ hx)

theorem findIdx_append_cons {b : UInt8} {front : Bytes} (h : b ∉ front) (back : Bytes) :
    (front ++ b :: back).findIdx (· == b) = front.length := by
  rw [List.findIdx_append, if_neg (by simpa using h), List.findIdx_cons, beq_self_eq_true,
    cond_true, Nat.zero_add]

theorem decodeSlices?_eq (base : Nat) (entry : Bytes) :
    decodeSlices? base entry = some (decodeEntry base entry) := by
  cases hcut : cutFirst 0x3D entry with
  | none =>
    simp only [decodeSlices?, decodeEntry, hcut, findIdx_of_not_mem (cutFirst_eq_none_iff.1 hcut),
      if_true]
  | some parts =>
    obtain ⟨key, value⟩ := parts
    obtain ⟨rfl, hfirst⟩ := cutFirst_eq_some_iff.1 hcut
    have hequals := findIdx_append_cons hfirst value
    have hne : key.length ≠ (key ++ 0x3D :: value).length := by
      rw [List.length_append, List.length_cons]
      omega
    have hkey : (key ++ [0x3D]).length = key.length + 1 := List.length_append
    have hvalue := slice?_end (key ++ [0x3D]) value
    rw [hkey, List.append_assoc, List.singleton_append] at hvalue
    simp only [decodeSlices?, decodeEntry, hcut, hequals, if_neg hne, slice?_start, hvalue,
      Option.bind_eq_bind, Option.bind_some]
    cases Utf8.decode key <;> cases Utf8.decode value <;> rfl

theorem readFrom?_of_le {start offset : Nat} {region : Bytes} (h : region.length ≤ offset)
    (found : LaunchData) : readFrom? start region offset found = some (.ok found) := by
  rw [readFrom?, if_neg (Nat.not_lt.2 h)]

/-- One entry is read, up to a NUL or the end of the region, and the next starts behind that. -/
theorem readFrom?_step (start : Nat) {piece : Bytes} (h : 0 ∉ piece) (front back : Bytes)
    (hback : back = [] ∧ piece ≠ [] ∨ back.head? = some 0) (found : LaunchData) :
    readFrom? start (front ++ (piece ++ back)) front.length found =
      match decodeEntry (start + front.length) piece with
      | .error error => some (.error error)
      | .ok entry => readFrom? start (front ++ (piece ++ back)) (front.length + piece.length + 1)
          (found.insert entry.1 entry.2) := by
  have hlt : front.length < (front ++ (piece ++ back)).length := by
    rcases hback with ⟨rfl, hne⟩ | hhead
    · have := List.length_pos_iff.2 hne
      simp only [List.length_append]
      omega
    · obtain ⟨rest, rfl⟩ := List.head?_eq_some_iff.1 hhead
      simp only [List.length_append, List.length_cons]
      omega
  have hstop : (piece ++ back).findIdx (· == 0) = piece.length := by
    rcases hback with ⟨rfl, -⟩ | hhead
    · rw [List.append_nil, findIdx_of_not_mem h]
    · obtain ⟨rest, rfl⟩ := List.head?_eq_some_iff.1 hhead
      exact findIdx_append_cons h rest
  have hentry : slice? (front ++ (piece ++ back)) front.length (front.length + piece.length) =
      some piece := by
    rw [← List.append_assoc, ← List.length_append]
    exact slice?_append front piece back
  rw [readFrom?, if_pos hlt]
  simp only [slice?_end, hstop, hentry, decodeSlices?_eq, Option.bind_eq_bind, Option.bind_some]

/-- Behind `front`, the entries that are read are the pieces of what is left. -/
theorem readFrom?_eq (start : Nat) (front rest : Bytes) (found : LaunchData) :
    readFrom? start (front ++ rest) front.length found =
      some (readPieces (start + front.length) found (pieces rest)) := by
  induction rest using cutInduction (0 : UInt8) generalizing front found with
  | whole piece hpiece =>
    by_cases hne : piece = []
    · rw [hne, List.append_nil, readFrom?_of_le le_rfl, pieces_nil, readPieces]
    · have hstep := readFrom?_step start hpiece front [] (.inl ⟨rfl, hne⟩) found
      rw [List.append_nil] at hstep
      rw [hstep, pieces_of_not_mem hpiece hne, readPieces]
      cases decodeEntry (start + front.length) piece with
      | error error => rfl
      | ok entry =>
        have hend : (front ++ piece).length ≤ front.length + piece.length + 1 := by
          rw [List.length_append]
          omega
        exact readFrom?_of_le hend _
  | cut piece rest hpiece ih =>
    rw [readFrom?_step start hpiece front (0 :: rest) (.inr rfl), pieces_append_cons hpiece,
      readPieces]
    cases decodeEntry (start + front.length) piece with
    | error error => rfl
    | ok entry =>
      have hnext := ih (front ++ (piece ++ [0])) (found.insert entry.1 entry.2)
      simpa only [List.append_assoc, List.singleton_append, List.length_append,
        List.length_singleton, ← Nat.add_assoc] using hnext

/-- Reading by offsets never leaves the binary, and finds what `parse` finds. -/
theorem parseSlices?_eq (bytes : Bytes) : parseSlices? bytes = some (parse bytes) := by
  by_cases hlength : bytes.length < sizeBytes
  · rw [parseSlices?, parse, if_pos hlength, if_pos hlength]
  · obtain ⟨front, field, rfl, hfield⟩ : ∃ front field,
        bytes = front ++ field ∧ field.length = sizeBytes :=
      ⟨bytes.take (bytes.length - sizeBytes), bytes.drop (bytes.length - sizeBytes),
        (List.take_append_drop _ _).symm, by rw [List.length_drop]; omega⟩
    have hstop : (front ++ field).length - sizeBytes = front.length := by
      rw [List.length_append, hfield, Nat.add_sub_cancel]
    simp only [parseSlices?, if_neg hlength, hstop, slice?_end, parse_append front hfield,
      Option.bind_eq_bind, Option.bind_some]
    split_ifs with hsize
    · have hregion : slice? (front ++ field)
          (front.length - (Signed64.ofWord (ofLittleEndian field)).toNat) front.length =
            some (front.drop (front.length - (Signed64.ofWord (ofLittleEndian field)).toNat)) := by
        rw [slice?, if_pos ⟨Nat.sub_le _ _, by simp⟩, List.take_left]
      rw [hregion, Option.bind_some]
      exact readFrom?_eq _ [] _ _
    · rfl

end RuntimeLauncher.LaunchData
