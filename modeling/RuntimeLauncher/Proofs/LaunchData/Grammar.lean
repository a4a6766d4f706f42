import RuntimeLauncher.Proofs.LaunchData.Bounds
import RuntimeLauncher.Proofs.LaunchData.Storage

/-! The grammar of stored launch data: which binaries carry some, which values they carry, and which
error every other binary has. -/
namespace RuntimeLauncher.LaunchData

/-- The size that a binary ends with, a signed number of eight bytes, lowest first. -/
def storedSize (bytes : Bytes) : Int :=
  (BitVec.ofNat 64 (Nat.ofDigits 256 ((bytes.drop (bytes.length - 8)).map UInt8.toNat))).toInt

/-- The binary has a size, and a region of this size before it. -/
def HasRegion (bytes : Bytes) : Prop :=
  8 ≤ bytes.length ∧ 0 ≤ storedSize bytes ∧ storedSize bytes ≤ (bytes.length : Int) - 8

def regionStart (bytes : Bytes) : Nat := bytes.length - 8 - (storedSize bytes).toNat

/-- The bytes before the size, as many as it says. -/
def storedRegion (bytes : Bytes) : Bytes :=
  (bytes.take (bytes.length - 8)).drop (regionStart bytes)

/-- A piece that has a `=`, with UTF-8 both before and after the first one. -/
def IsEntry (piece : Bytes) : Prop :=
  ∃ key value : Bytes, piece = key ++ 0x3D :: value ∧ 0x3D ∉ key ∧
    Utf8.Valid key ∧ Utf8.Valid value

/-- The last piece with a key has this value. -/
def LastValue (ps : List Bytes) (key value : Text) : Prop :=
  ∃ before piece after, ps = before ++ piece :: after ∧ Spells piece (key, value) ∧
    ∀ later ∈ after, ∀ v, ¬ Spells later (key, v)

/-- The fault of the first piece that is no entry. The pieces begin at `start`, each with a NUL
before the next. -/
def FirstFault (start : Nat) (ps : List Bytes) (error : Error) : Prop :=
  ∃ before piece after, ps = before ++ piece :: after ∧ (∀ p ∈ before, IsEntry p) ∧
    Fault (start + (before.flatMap (· ++ [0])).length) piece error

theorem isEntry_iff_exists_spells {piece : Bytes} : IsEntry piece ↔ ∃ entry, Spells piece entry := by
  constructor
  · rintro ⟨_, _, rfl, hfirst, ⟨key, rfl⟩, ⟨value, rfl⟩⟩
    exact ⟨(key, value), rfl, hfirst⟩
  · rintro ⟨entry, hparts, hfirst⟩
    exact ⟨_, _, hparts, hfirst, ⟨_, rfl⟩, ⟨_, rfl⟩⟩

theorem exists_forall₂_spells {ps : List Bytes} (h : ∀ p ∈ ps, IsEntry p) :
    ∃ entries, List.Forall₂ Spells ps entries := by
  induction ps with
  | nil => exact ⟨[], .nil⟩
  | cons p ps ih =>
    obtain ⟨hp, hps⟩ := List.forall_mem_cons.1 h
    obtain ⟨entry, hentry⟩ := isEntry_iff_exists_spells.1 hp
    obtain ⟨entries, hentries⟩ := ih hps
    exact ⟨entry :: entries, .cons hentry hentries⟩

theorem Fault.decodeEntry_eq {offset : Nat} {piece : Bytes} {error : Error}
    (h : Fault offset piece error) : decodeEntry offset piece = .error error := by
  cases h with
  | noSeparator hnone => simp only [decodeEntry, cutFirst_eq_none_iff.2 hnone]
  | key hfirst hkey =>
    simp only [decodeEntry, cutFirst_append_cons hfirst, Utf8.decode_eq_none_iff.2 hkey]
  | value hfirst hkey hvalue =>
    obtain ⟨k, rfl⟩ := hkey
    simp only [decodeEntry, cutFirst_append_cons hfirst, Utf8.decode_encode,
      Utf8.decode_eq_none_iff.2 hvalue]

/-- Either every piece is an entry, or a first one has a fault. -/
theorem forall_isEntry_or_firstFault (start : Nat) (ps : List Bytes) :
    (∀ p ∈ ps, IsEntry p) ∨ ∃ error, FirstFault start ps error := by
  induction ps generalizing start with
  | nil => exact .inl fun _ hp => absurd hp List.not_mem_nil
  | cons p ps ih =>
    rcases decodeEntry_spec start p with ⟨entry, -, hentry⟩ | ⟨error, -, hfault⟩
    · have hp := isEntry_iff_exists_spells.2 ⟨entry, hentry⟩
      rcases ih (start + (p ++ [0]).length) with
        hps | ⟨error, before, piece, after, rfl, hbefore, hfault⟩
      · exact .inl (List.forall_mem_cons.2 ⟨hp, hps⟩)
      · rw [Nat.add_assoc, ← List.length_append] at hfault
        exact .inr ⟨error, p :: before, piece, after, rfl, List.forall_mem_cons.2 ⟨hp, hbefore⟩,
          hfault⟩
    · exact .inr ⟨error, [], p, ps, rfl, fun _ hp => absurd hp List.not_mem_nil, hfault⟩

theorem readPieces_of_firstFault {start : Nat} {ps : List Bytes} {error : Error}
    (h : FirstFault start ps error) (found : LaunchData) :
    readPieces start found ps = .error error := by
  obtain ⟨before, piece, after, rfl, hbefore, hfault⟩ := h
  obtain ⟨entries, hentries⟩ := exists_forall₂_spells hbefore
  rw [readPieces_append _ _ hentries, readPieces, hfault.decodeEntry_eq]

theorem lastValue_cons {p : Bytes} {ps : List Bytes} {key value : Text} :
    LastValue (p :: ps) key value ↔
      LastValue ps key value ∨ (∀ later ∈ ps, ∀ v, ¬ Spells later (key, v)) ∧
        Spells p (key, value) := by
  constructor
  · rintro ⟨before, piece, after, hsplit, hpiece, hafter⟩
    cases before with
    | nil =>
      obtain ⟨rfl, rfl⟩ := List.cons.inj hsplit
      exact .inr ⟨hafter, hpiece⟩
    | cons first before =>
      exact .inl ⟨before, piece, after, (List.cons.inj hsplit).2, hpiece, hafter⟩
  · rintro (⟨before, piece, after, rfl, hpiece, hafter⟩ | ⟨hafter, hpiece⟩)
    · exact ⟨p :: before, piece, after, rfl, hpiece, hafter⟩
    · exact ⟨[], p, ps, rfl, hpiece, hafter⟩

/-- What is found under a key among the entries that pieces spell. -/
theorem lookup_reverse_of_spells {ps : List Bytes} {entries : List (Text × Text)}
    (h : List.Forall₂ Spells ps entries) (key : Text) :
    (entries.reverse.lookup key = none ↔ ∀ p ∈ ps, ∀ v, ¬ Spells p (key, v)) ∧
      ∀ value, entries.reverse.lookup key = some value ↔ LastValue ps key value := by
  induction h with
  | nil => simp [LastValue]
  | @cons p entry ps entries hp _ ih =>
    obtain ⟨hnone, hsome⟩ := ih
    have hlast (value : Text) : [entry].lookup key = some value ↔ Spells p (key, value) := by
      rw [lookup_cons_eq_ite, List.lookup_nil]
      constructor
      · intro hfound
        obtain ⟨rfl, hvalue⟩ := Option.ite_none_right_eq_some.1 hfound
        exact Option.some.inj hvalue ▸ hp
      · intro hspells
        rw [hp.unique hspells, if_pos rfl]
    rw [List.reverse_cons, List.lookup_append]
    refine ⟨?_, fun value => ?_⟩
    · rw [Option.or_eq_none_iff, hnone, List.forall_mem_cons, and_comm]
      simp only [Option.eq_none_iff_forall_ne_some, ne_eq, hlast]
    · rw [Option.or_eq_some_iff, hsome, hnone, hlast, lastValue_cons]

theorem ofLittleEndian_eq_ofDigits (bytes : Bytes) :
    ofLittleEndian bytes = Nat.ofDigits 256 (bytes.map UInt8.toNat) := by
  induction bytes with
  | nil => rfl
  | cons b bytes ih => rw [ofLittleEndian, ih, List.map_cons, Nat.ofDigits_cons]

theorem ofWord_ofLittleEndian {field : Bytes} (h : field.length = sizeBytes) :
    Signed64.ofWord (ofLittleEndian field) =
      (BitVec.ofNat 64 (Nat.ofDigits 256 (field.map UInt8.toNat))).toInt := by
  have hword : Nat.ofDigits 256 (field.map UInt8.toNat) < 2 ^ 64 := by
    have hdigits : ∀ n ∈ field.map UInt8.toNat, n < 256 := by
      simpa using fun b _ => UInt8.toNat_lt b
    simpa [h, sizeBytes] using Nat.ofDigits_lt_base_pow_length (by decide) hdigits
  rw [ofLittleEndian_eq_ofDigits, BitVec.toInt_eq_toNat_cond, BitVec.toNat_ofNat,
    Nat.mod_eq_of_lt hword, Signed64.ofWord, Signed64.bound]
  split_ifs <;> omega

/-- A binary is read by its size, if there is room for one. -/
theorem parse_eq (bytes : Bytes) (h : sizeBytes ≤ bytes.length) :
    (HasRegion bytes →
      parse bytes = readPieces (regionStart bytes) empty (pieces (storedRegion bytes))) ∧
    (¬ HasRegion bytes → parse bytes = .error (.invalidSize (storedSize bytes) bytes.length)) := by
  have hfield : (bytes.drop (bytes.length - 8)).length = sizeBytes := by
    rw [List.length_drop, sizeBytes] at *
    omega
  have hfront : (bytes.take (bytes.length - 8)).length = bytes.length - 8 := by
    rw [List.length_take]
    omega
  have hparse := parse_append (bytes.take (bytes.length - 8)) hfield
  rw [List.take_append_drop, ofWord_ofLittleEndian hfield, hfront] at hparse
  change parse bytes = if 0 ≤ storedSize bytes ∧ storedSize bytes ≤ (bytes.length - 8 : Nat) then
    readPieces (regionStart bytes) empty (pieces (storedRegion bytes))
    else .error (.invalidSize (storedSize bytes) bytes.length) at hparse
  have hregion : HasRegion bytes ↔
      0 ≤ storedSize bytes ∧ storedSize bytes ≤ (bytes.length - 8 : Nat) := by
    rw [sizeBytes] at h
    rw [HasRegion]
    omega
  rw [hparse, hregion]
  exact ⟨fun hfits => if_pos hfits, fun hfits => if_neg hfits⟩

/-- Launch data is read from exactly the binaries whose stored region consists of entries, and the
last entry with a key counts. Any other binary has no room for a size, a size that does not fit, or
a first piece with a fault. No byte outside the binary is looked at. -/
theorem parse_iff_grammar (bytes : Bytes) :
    parseSlices? bytes = some (parse bytes) ∧
    ((∃ data, parse bytes = .ok data) ↔
      HasRegion bytes ∧ ∀ piece ∈ pieces (storedRegion bytes), IsEntry piece) ∧
    (∀ data, parse bytes = .ok data → ∀ key value,
      data.get? key = some value ↔ LastValue (pieces (storedRegion bytes)) key value) ∧
    ∀ error, parse bytes = .error error ↔
      bytes.length < 8 ∧ error = .invalidSize 0 bytes.length ∨
      8 ≤ bytes.length ∧ ¬ HasRegion bytes ∧
        error = .invalidSize (storedSize bytes) bytes.length ∨
      HasRegion bytes ∧
        FirstFault (regionStart bytes) (pieces (storedRegion bytes)) error := by
  refine ⟨parseSlices?_eq bytes, ?_⟩
  by_cases hlength : bytes.length < 8
  · have hparse : parse bytes = .error (.invalidSize 0 bytes.length) := if_pos hlength
    have hregion : ¬ HasRegion bytes := fun h => Nat.not_le.2 hlength h.1
    simp [hparse, hlength, hregion, eq_comm]
  have hlong := Nat.not_lt.1 hlength
  obtain ⟨hread, hmisfit⟩ := parse_eq bytes hlong
  by_cases hregion : HasRegion bytes
  · simp only [hread hregion, hlength, hlong, hregion, not_true_eq_false, false_and, and_false,
      false_or, true_and]
    rcases forall_isEntry_or_firstFault (regionStart bytes) (pieces (storedRegion bytes)) with
      hall | ⟨error, hfault⟩
    · obtain ⟨entries, hentries⟩ := exists_forall₂_spells hall
      have hok := readPieces_of_spells (regionStart bytes) empty hentries
      refine ⟨⟨fun _ => hall, fun _ => ⟨_, hok⟩⟩, fun data hdata key value => ?_, fun error => ?_⟩
      · obtain rfl := Except.ok.inj (hok.symm.trans hdata)
        exact get?_ofList entries key ▸ (lookup_reverse_of_spells hentries key).2 value
      · refine ⟨fun herror => ?_, fun hfault => readPieces_of_firstFault hfault empty⟩
        rw [hok] at herror
        contradiction
    · have herror := readPieces_of_firstFault hfault empty
      refine ⟨⟨fun ⟨data, hdata⟩ => ?_, fun hall => ?_⟩, fun data hdata => ?_, fun other => ?_⟩
      · rw [herror] at hdata
        contradiction
      · obtain ⟨entries, hentries⟩ := exists_forall₂_spells hall
        exact ⟨_, readPieces_of_spells _ _ hentries⟩
      · rw [herror] at hdata
        contradiction
      · refine ⟨fun hother => ?_, fun hother => readPieces_of_firstFault hother empty⟩
        obtain rfl := Except.error.inj (herror.symm.trans hother)
        exact hfault
  · simp [hmisfit hregion, hlength, hlong, hregion, eq_comm]

end RuntimeLauncher.LaunchData
