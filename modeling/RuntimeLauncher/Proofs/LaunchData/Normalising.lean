import RuntimeLauncher.Proofs.LaunchData.Grammar
import RuntimeLauncher.Proofs.Steps
import RuntimeLauncher.Proofs.Text.Cuts

/-! Storing again what was read. Whatever a reader accepts can be stored, but for an empty key, and
the bytes that are stored do not depend on how the same values were written before. -/
namespace RuntimeLauncher.LaunchData

/-- An entry that holds nothing which ends a key or a value when it is stored. -/
structure Readable (entry : Text × Text) : Prop where
  separator : '=' ∉ entry.1
  keyEnd : '\x00' ∉ entry.1
  valueEnd : '\x00' ∉ entry.2

theorem Readable.storable {entry : Text × Text} (h : Readable entry) (hne : entry.1 ≠ []) :
    Storable entry :=
  ⟨hne, h.separator, h.keyEnd, h.valueEnd⟩

/-- The empty key is all that can be wrong with such an entry. -/
theorem Readable.entryError?_eq {entry : Text × Text} (h : Readable entry) :
    entryError? entry = if entry.1 = [] then some (.invalidKey []) else none := by
  split_ifs with hempty
  · rw [entryError?, if_pos (.inl hempty), hempty]
  · exact entryError?_eq_none_iff.2 (h.storable hempty)

theorem zero_not_mem_of_mem_pieces {region piece : Bytes} (h : piece ∈ pieces region) :
    0 ∉ piece := by
  have hcut : piece ∈ region.splitOn 0 := by
    simp only [pieces] at h
    split at h
    · exact List.mem_of_mem_dropLast h
    · exact h
  exact not_mem_of_mem_splitOn hcut

theorem Spells.readable {piece : Bytes} {entry : Text × Text} (h : Spells piece entry)
    (hzero : 0 ∉ piece) : Readable entry := by
  obtain ⟨rfl, hseparator⟩ := spells_iff.1 h
  rw [zero_mem_entryBody_iff, not_or] at hzero
  exact ⟨hseparator, hzero.1, hzero.2⟩

theorem exists_piece_of_mem {ps : List Bytes} {entries : List (Text × Text)}
    (h : List.Forall₂ Spells ps entries) {entry : Text × Text} (hentry : entry ∈ entries) :
    ∃ piece ∈ ps, Spells piece entry := by
  induction h with
  | nil => contradiction
  | cons hpiece _ ih =>
    rcases List.mem_cons.1 hentry with rfl | hlater
    · exact ⟨_, List.mem_cons_self, hpiece⟩
    · obtain ⟨piece, hmem, hspells⟩ := ih hlater
      exact ⟨piece, List.mem_cons_of_mem _ hmem, hspells⟩

theorem mem_of_mem_ofList {pairs : List (Text × Text)} {entry : Text × Text}
    (h : entry ∈ (ofList pairs).entries) : entry ∈ pairs := by
  have hvalue : (ofList pairs).get? entry.1 = some entry.2 := mem_entries_iff.1 h
  rw [get?_ofList, lookup_reverse_eq_some_iff] at hvalue
  obtain ⟨before, after, rfl, -⟩ := hvalue
  exact List.mem_append_right _ List.mem_cons_self

section Parsed
variable {bytes : Bytes} {data : LaunchData} (h : parse bytes = .ok data)
include h

/-- Data that is read comes from entries that the pieces of the region spell. -/
theorem exists_spelled : ∃ entries, List.Forall₂ Spells (pieces (storedRegion bytes)) entries ∧
    data = ofList entries := by
  by_cases hlength : bytes.length < 8
  · have hshort : parse bytes = .error (.invalidSize 0 bytes.length) := if_pos hlength
    rw [hshort] at h
    contradiction
  obtain ⟨hread, hmisfit⟩ := parse_eq bytes (Nat.not_lt.1 hlength)
  by_cases hregion : HasRegion bytes
  · rw [hread hregion] at h
    rcases forall_isEntry_or_firstFault (regionStart bytes) (pieces (storedRegion bytes)) with
      hall | ⟨error, hfault⟩
    · obtain ⟨entries, hentries⟩ := exists_forall₂_spells hall
      rw [readPieces_of_spells _ _ hentries] at h
      exact ⟨entries, hentries, (Except.ok.inj h).symm⟩
    · rw [readPieces_of_firstFault hfault] at h
      contradiction
  · rw [hmisfit hregion] at h
    contradiction

theorem get?_eq_some_iff_lastValue {key value : Text} :
    data.get? key = some value ↔ LastValue (pieces (storedRegion bytes)) key value := by
  obtain ⟨entries, hentries, rfl⟩ := exists_spelled h
  rw [get?_ofList]
  exact (lookup_reverse_of_spells hentries key).2 value

theorem readable_of_mem {entry : Text × Text} (hentry : entry ∈ data.entries) : Readable entry := by
  obtain ⟨entries, hentries, rfl⟩ := exists_spelled h
  obtain ⟨piece, hpiece, hspells⟩ := exists_piece_of_mem hentries (mem_of_mem_ofList hentry)
  exact hspells.readable (zero_not_mem_of_mem_pieces hpiece)

end Parsed

/-- Entries that were read are stored, or refused for an empty key among them. -/
theorem encode_of_readable {data : LaunchData} (h : ∀ entry ∈ data.entries, Readable entry) :
    ([] ∉ data.keys ∧ ∃ stored, data.encode = .ok stored) ∨
      [] ∈ data.keys ∧ data.encode = .error (.invalidKey []) := by
  by_cases hempty : [] ∈ data.keys
  · obtain ⟨entry, hentry, hkey⟩ := List.mem_map.1 hempty
    have hinvalid : entryError? entry = some (.invalidKey []) := by
      rw [(h entry hentry).entryError?_eq, if_pos hkey]
    refine .inr ⟨hempty, encode_eq_error_iff.2 ?_⟩
    cases hfound : data.entries.findSome? entryError? with
    | none =>
      rw [List.findSome?_eq_none_iff.1 hfound entry hentry] at hinvalid
      contradiction
    | some error =>
      obtain ⟨other, hother, herror⟩ := List.exists_of_findSome?_eq_some hfound
      rw [(h other hother).entryError?_eq] at herror
      exact (Option.ite_none_right_eq_some.1 herror).2.symm
  · have hstorable : ∀ entry ∈ data.entries, Storable entry := fun entry hentry =>
      (h entry hentry).storable fun hkey => hempty (hkey ▸ List.mem_map_of_mem hentry)
    exact .inl ⟨hempty, _, encode_eq_ok_iff.2 ⟨hstorable, rfl⟩⟩

/-! The region that is stored is longer than the one that was read by one byte at most, the NUL that
the last entry may have lacked. -/

theorem length_flatMap_insertEntry (key value : Text) (l : List (Text × Text)) :
    ((insertEntry key value l).flatMap encodeEntry).length ≤
      (l.flatMap encodeEntry).length + (encodeEntry (key, value)).length := by
  induction l with
  | nil => simp [insertEntry]
  | cons entry l ih =>
    obtain ⟨k, v⟩ := entry
    rw [insertEntry]
    split_ifs
    · simp only [List.flatMap_cons, List.length_append]
      omega
    · simp only [List.flatMap_cons, List.length_append]
      omega
    · simp only [List.flatMap_cons, List.length_append]
      omega

theorem length_region_insertMany (data : LaunchData) (pairs : List (Text × Text)) :
    (data.insertMany pairs).region.length ≤
      data.region.length + (pairs.flatMap encodeEntry).length := by
  induction pairs generalizing data with
  | nil => simp
  | cons pair pairs ih =>
    have hinsert : (data.insert pair.1 pair.2).region.length ≤
        data.region.length + (encodeEntry pair).length :=
      length_flatMap_insertEntry pair.1 pair.2 data.entries
    have hrest := ih (data.insert pair.1 pair.2)
    rw [insertMany_cons, List.flatMap_cons, List.length_append]
    omega

theorem flatMap_encodeEntry_of_spells {ps : List Bytes} {entries : List (Text × Text)}
    (h : List.Forall₂ Spells ps entries) :
    entries.flatMap encodeEntry = ps.flatMap (· ++ [0]) := by
  induction h with
  | nil => rfl
  | @cons piece entry ps entries hpiece _ ih =>
    have hentry : encodeEntry entry = piece ++ [0] := by
      rw [hpiece.parts, encodeEntry, List.append_assoc, List.cons_append]
    rw [List.flatMap_cons, List.flatMap_cons, ih, hentry]

theorem length_flatMap_pieces (region : Bytes) :
    ((pieces region).flatMap (· ++ [0])).length ≤ region.length + 1 := by
  induction region using cutInduction (0 : UInt8) with
  | whole piece hpiece =>
    by_cases hne : piece = []
    · simp [hne]
    · rw [pieces_of_not_mem hpiece hne]
      simp
  | cut piece rest hpiece ih =>
    rw [pieces_append_cons hpiece, List.flatMap_cons]
    simp only [List.length_append, List.length_cons, List.length_nil]
    omega

theorem length_region_of_parse {bytes : Bytes} {data : LaunchData} (h : parse bytes = .ok data) :
    data.region.length ≤ bytes.length - 8 + 1 := by
  obtain ⟨entries, hentries, rfl⟩ := exists_spelled h
  have hregion : (ofList entries).region.length ≤
      (empty.region).length + (entries.flatMap encodeEntry).length :=
    length_region_insertMany empty entries
  have hempty : (empty.region).length = 0 := rfl
  have hpieces := length_flatMap_pieces (storedRegion bytes)
  have hstored : (storedRegion bytes).length ≤ bytes.length - 8 := by
    rw [storedRegion, List.length_drop, List.length_take]
    omega
  rw [flatMap_encodeEntry_of_spells hentries] at hregion
  omega

/-- Data that was read has a stored form unless a key is empty, and that key is then the error. The
stored form is read as the same data and stored as the same bytes, and every key has in it the value
that it had before. Binaries in which the last values of all keys agree have one stored form,
however their entries are ordered, repeated or ended. The bound on the binary is that of a size
field, and every buffer in memory keeps it. -/
theorem encode_of_parse {bytes : Bytes} {data : LaunchData} (h : parse bytes = .ok data) :
    ((∃ stored, data.encode = .ok stored) ↔ [] ∉ data.keys) ∧
    (∀ error, data.encode = .error error ↔ [] ∈ data.keys ∧ error = .invalidKey []) ∧
    (∀ stored, data.encode = .ok stored → bytes.length < 2 ^ 63 →
      parse stored = .ok data ∧ (parse stored >>= encode) = .ok stored ∧
      ∀ key value, LastValue (pieces (storedRegion stored)) key value ↔
        LastValue (pieces (storedRegion bytes)) key value) ∧
    ∀ other data', parse other = .ok data' →
      (∀ key value, LastValue (pieces (storedRegion other)) key value ↔
        LastValue (pieces (storedRegion bytes)) key value) → data'.encode = data.encode := by
  have hreadable : ∀ entry ∈ data.entries, Readable entry := fun entry hentry =>
    readable_of_mem h hentry
  refine ⟨?_, ?_, ?_, ?_⟩
  · rcases encode_of_readable hreadable with ⟨hkeys, hstored⟩ | ⟨hkeys, hrefused⟩
    · exact iff_of_true hstored hkeys
    · simp [hrefused, hkeys]
  · intro error
    rcases encode_of_readable hreadable with ⟨hkeys, stored, hstored⟩ | ⟨hkeys, hrefused⟩
    · simp [hstored, hkeys]
    · simp [hrefused, hkeys, eq_comm]
  · intro stored hstored hlength
    have hbound : data.region.length < Signed64.bound := by
      have hregion := length_region_of_parse h
      have hvalue : Signed64.bound = 2 ^ 63 := rfl
      omega
    have hagain : parse stored = .ok data := by
      obtain ⟨hstorable, rfl⟩ := encode_eq_ok_iff.1 hstored
      exact parse_append_region hstorable hbound []
    refine ⟨hagain, ?_, ?_⟩
    · rw [hagain, ok_bind, hstored]
    · intro key value
      rw [← get?_eq_some_iff_lastValue hagain, get?_eq_some_iff_lastValue h]
  · intro other data' hother hsame
    have hdata : data' = data := by
      apply ext_get?
      intro key
      apply Option.ext
      intro value
      rw [get?_eq_some_iff_lastValue hother, get?_eq_some_iff_lastValue h, hsame]
    rw [hdata]

/-- The entries `b=1`, `a=2` and `b=3`, the last without its NUL, and their size. -/
def unorderedBinary : Bytes :=
  [0x62, 0x3D, 0x31, 0, 0x61, 0x3D, 0x32, 0, 0x62, 0x3D, 0x33, 11, 0, 0, 0, 0, 0, 0, 0]

/-- The entry `=x`, and its size. -/
def namelessBinary : Bytes := [0x3D, 0x78, 0, 3, 0, 0, 0, 0, 0, 0, 0]

/-- Entries are ordered and the older value of `b` goes; an entry without a key cannot be stored. -/
theorem encode_of_parse_unordered :
    parse unorderedBinary = .ok (ofList [(['a'], ['2']), (['b'], ['3'])]) ∧
    (ofList [(['a'], ['2']), (['b'], ['3'])]).encode =
      .ok [0x61, 0x3D, 0x32, 0, 0x62, 0x3D, 0x33, 0, 8, 0, 0, 0, 0, 0, 0, 0] ∧
    parse [0x61, 0x3D, 0x32, 0, 0x62, 0x3D, 0x33, 0, 8, 0, 0, 0, 0, 0, 0, 0] =
      .ok (ofList [(['a'], ['2']), (['b'], ['3'])]) ∧
    parse namelessBinary = .ok (ofList [([], ['x'])]) ∧
    (ofList [([], ['x'])]).encode = .error (.invalidKey []) := by
  have hunordered : parse unorderedBinary = .ok (ofList [(['a'], ['2']), (['b'], ['3'])]) := rfl
  have hnameless : parse namelessBinary = .ok (ofList [([], ['x'])]) := rfl
  have hstored : (ofList [(['a'], ['2']), (['b'], ['3'])]).encode =
      .ok [0x61, 0x3D, 0x32, 0, 0x62, 0x3D, 0x33, 0, 8, 0, 0, 0, 0, 0, 0, 0] := rfl
  have hagain := ((encode_of_parse hunordered).2.2.1 _ hstored (by decide)).1
  have hrefused := ((encode_of_parse hnameless).2.1 (.invalidKey [])).2 ⟨by decide, rfl⟩
  exact ⟨hunordered, hstored, hagain, hnameless, hrefused⟩

end RuntimeLauncher.LaunchData
