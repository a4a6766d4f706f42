import RuntimeLauncher.Proofs.LaunchData.Pieces

/-! What is stored is read back: the length field, the entries of a region, and the data behind
bytes of any kind. -/
namespace RuntimeLauncher.LaunchData

@[simp] theorem length_littleEndian (count n : Nat) : (littleEndian count n).length = count := by
  induction count generalizing n with
  | zero => rfl
  | succ count ih => rw [littleEndian, List.length_cons, ih]

theorem ofLittleEndian_littleEndian (count n : Nat) :
    ofLittleEndian (littleEndian count n) = n % 256 ^ count := by
  induction count generalizing n with
  | zero => rw [littleEndian, ofLittleEndian, pow_zero, Nat.mod_one]
  | succ count ih =>
    have hbyte : (UInt8.ofNat n).toNat = n % 256 := UInt8.toNat_ofNat'
    rw [littleEndian, ofLittleEndian, ih, hbyte, pow_succ', Nat.mod_mul]

theorem ofWord_littleEndian {n : Nat} (h : n < Signed64.bound) :
    Signed64.ofWord (ofLittleEndian (littleEndian sizeBytes n)) = n := by
  have hword : n < 256 ^ sizeBytes := lt_trans h (by decide)
  rw [ofLittleEndian_littleEndian, Nat.mod_eq_of_lt hword, Signed64.ofWord, if_pos h]

structure Storable (entry : Text × Text) : Prop where
  nonempty : entry.1 ≠ []
  separator : '=' ∉ entry.1
  keyEnd : '\x00' ∉ entry.1
  valueEnd : '\x00' ∉ entry.2

theorem entryError?_eq_none_iff {entry : Text × Text} :
    entryError? entry = none ↔ Storable entry := by
  unfold entryError?
  split_ifs with hkey hvalue
  · refine iff_of_false (by simp) fun h => ?_
    rcases hkey with hkey | hkey | hkey
    · exact h.nonempty hkey
    · exact h.separator hkey
    · exact h.keyEnd hkey
  · exact iff_of_false (by simp) fun h => h.valueEnd hvalue
  · push Not at hkey
    exact iff_of_true rfl ⟨hkey.1, hkey.2.1, hkey.2.2, hvalue⟩

/-- What is wrong with an entry. Where the key is bad, the value does not matter. -/
inductive EntryFault : Text × Text → Error → Prop where
  | key {key value : Text} : key = [] ∨ '=' ∈ key ∨ '\x00' ∈ key →
    EntryFault (key, value) (.invalidKey key)
  | value {key value : Text} : key ≠ [] → '=' ∉ key → '\x00' ∉ key → '\x00' ∈ value →
    EntryFault (key, value) (.invalidValue key)

theorem entryError?_eq_some_iff {entry : Text × Text} {error : Error} :
    entryError? entry = some error ↔ EntryFault entry error := by
  constructor
  · intro h
    unfold entryError? at h
    split_ifs at h with hkey hvalue
    · obtain rfl := Option.some.inj h
      exact .key hkey
    · obtain rfl := Option.some.inj h
      push Not at hkey
      exact .value hkey.1 hkey.2.1 hkey.2.2 hvalue
  · rintro (hkey | ⟨hempty, hseparator, hend, hvalue⟩)
    · rw [entryError?, if_pos hkey]
    · rw [entryError?, if_neg (by simp [hempty, hseparator, hend]), if_pos hvalue]

/-- The bytes of an entry up to its NUL. -/
def entryBody (entry : Text × Text) : Bytes :=
  Utf8.encode entry.1 ++ 0x3D :: Utf8.encode entry.2

theorem zero_mem_entryBody_iff {entry : Text × Text} :
    0 ∈ entryBody entry ↔ '\x00' ∈ entry.1 ∨ '\x00' ∈ entry.2 := by
  have hzero (t : Text) : 0 ∈ Utf8.encode t ↔ '\x00' ∈ t :=
    Utf8.mem_encode_iff (a := '\x00') (by decide) t
  simp [entryBody, hzero]

theorem spells_iff {piece : Bytes} {entry : Text × Text} :
    Spells piece entry ↔ piece = entryBody entry ∧ '=' ∉ entry.1 := by
  have hequals : 0x3D ∈ Utf8.encode entry.1 ↔ '=' ∈ entry.1 :=
    Utf8.mem_encode_iff (a := '=') (by decide) entry.1
  rw [← hequals]
  exact ⟨fun h => ⟨h.parts, h.first⟩, fun h => ⟨h.1, h.2⟩⟩

theorem Storable.zero_not_mem {entry : Text × Text} (h : Storable entry) :
    0 ∉ entryBody entry := by
  rw [zero_mem_entryBody_iff, not_or]
  exact ⟨h.keyEnd, h.valueEnd⟩

theorem Storable.spells {entry : Text × Text} (h : Storable entry) :
    Spells (entryBody entry) entry :=
  spells_iff.2 ⟨rfl, h.separator⟩

theorem pieces_region {data : LaunchData} (h : ∀ entry ∈ data.entries, Storable entry) :
    pieces data.region = data.entries.map entryBody :=
  pieces_flatMap fun entry he => (h entry he).zero_not_mem

theorem encode_eq_ok_iff {data : LaunchData} {bytes : Bytes} :
    data.encode = .ok bytes ↔ (∀ entry ∈ data.entries, Storable entry) ∧
      bytes = data.region ++ littleEndian sizeBytes data.region.length := by
  unfold encode
  cases herror : data.entries.findSome? entryError? with
  | some error =>
    obtain ⟨entry, hmem, hentry⟩ := List.exists_of_findSome?_eq_some herror
    refine iff_of_false (by simp) fun h => ?_
    rw [entryError?_eq_none_iff.2 (h.1 entry hmem)] at hentry
    contradiction
  | none =>
    have hall : ∀ entry ∈ data.entries, Storable entry := fun entry he =>
      entryError?_eq_none_iff.1 (List.findSome?_eq_none_iff.1 herror entry he)
    simp only [Except.ok.injEq]
    exact ⟨fun h => ⟨hall, h.symm⟩, fun h => h.2.symm⟩

theorem encode_eq_error_iff {data : LaunchData} {error : Error} :
    data.encode = .error error ↔ data.entries.findSome? entryError? = some error := by
  unfold encode
  cases data.entries.findSome? entryError? with
  | none => simp
  | some other => simp

/-- Whether there is a stored form is not a matter of files. -/
theorem encode_ne_io (data : LaunchData) (path : Path) (cause : Failure) :
    data.encode ≠ .error (.io path cause) := by
  intro h
  obtain ⟨entry, -, hentry⟩ := List.exists_of_findSome?_eq_some (encode_eq_error_iff.1 h)
  cases entryError?_eq_some_iff.1 hentry

/-- Stored data is read from the end of a binary, whatever stands before it. -/
theorem parse_append_region {data : LaunchData} (h : ∀ entry ∈ data.entries, Storable entry)
    (hlength : data.region.length < Signed64.bound) (front : Bytes) :
    parse (front ++ (data.region ++ littleEndian sizeBytes data.region.length)) = .ok data := by
  have hsize := ofWord_littleEndian hlength
  have hstart : (front ++ data.region).length - data.region.length = front.length := by
    rw [List.length_append, Nat.add_sub_cancel]
  have hspells : List.Forall₂ Spells (data.entries.map entryBody) data.entries :=
    List.forall₂_map_left_iff.2 (List.forall₂_same.2 fun entry he => (h entry he).spells)
  have hfits : (0 : Int) ≤ data.region.length ∧
      (data.region.length : Int) ≤ (front ++ data.region).length := by
    rw [List.length_append]
    omega
  rw [← List.append_assoc, parse_append _ (length_littleEndian _ _), hsize, if_pos hfits,
    Int.toNat_natCast, hstart, List.drop_left, pieces_region h, readPieces_of_spells _ _ hspells]
  exact congrArg Except.ok data.ofList_entries

/-- Launch data that has a stored form is read back from any binary that ends with it. -/
theorem parse_append_encode {data : LaunchData} {bytes : Bytes} (h : data.encode = .ok bytes)
    (hlength : bytes.length < 2 ^ 63) (front : Bytes) : parse (front ++ bytes) = .ok data := by
  obtain ⟨hall, rfl⟩ := encode_eq_ok_iff.1 h
  rw [List.length_append] at hlength
  exact parse_append_region hall (lt_of_le_of_lt (Nat.le_add_right _ _) hlength) front

/-- A value with `=`, an empty value and text past ASCII, behind older launch data. -/
theorem parse_append_encode_older :
    (ofList [(['k'], ['a', '=', 'b']), (['é'], ['日']), (['n'], [])]).encode =
        .ok [0x6B, 0x3D, 0x61, 0x3D, 0x62, 0, 0x6E, 0x3D, 0, 0xC3, 0xA9, 0x3D, 0xE6, 0x97, 0xA5, 0,
          16, 0, 0, 0, 0, 0, 0, 0] ∧
      parse ([0x61, 0x3D, 0x62, 0, 4, 0, 0, 0, 0, 0, 0, 0] ++
          [0x6B, 0x3D, 0x61, 0x3D, 0x62, 0, 0x6E, 0x3D, 0, 0xC3, 0xA9, 0x3D, 0xE6, 0x97, 0xA5, 0,
            16, 0, 0, 0, 0, 0, 0, 0]) =
        .ok (ofList [(['k'], ['a', '=', 'b']), (['é'], ['日']), (['n'], [])]) :=
  have h : (ofList [(['k'], ['a', '=', 'b']), (['é'], ['日']), (['n'], [])]).encode = .ok _ := rfl
  ⟨h, parse_append_encode h (by decide) _⟩

end RuntimeLauncher.LaunchData
