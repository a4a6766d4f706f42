import Mathlib.Tactic
import RuntimeLauncher.LaunchData.Codec
import RuntimeLauncher.Proofs.LaunchData.Insertion
import RuntimeLauncher.Proofs.Text.Utf8

/-! The entries of a stored region as the pieces between its NULs: what a piece spells, what is
wrong with one that spells nothing, and that a region is read piece by piece. -/
namespace RuntimeLauncher.LaunchData

/-- A region cut at every NUL. One empty last piece is dropped. -/
def pieces (region : Bytes) : List Bytes :=
  let cuts := region.splitOn 0
  if cuts.getLast? = some [] then cuts.dropLast else cuts

@[simp] theorem pieces_nil : pieces [] = [] := rfl

theorem pieces_of_not_mem {piece : Bytes} (h : 0 ∉ piece) (hne : piece ≠ []) :
    pieces piece = [piece] := by
  rw [pieces, List.splitOn_eq_singleton h]
  simp [hne]

theorem pieces_append_cons {piece : Bytes} (h : 0 ∉ piece) (rest : Bytes) :
    pieces (piece ++ 0 :: rest) = piece :: pieces rest := by
  obtain ⟨cut, cuts, hcuts⟩ := List.exists_cons_of_ne_nil (List.splitOn_ne_nil 0 rest)
  simp only [pieces, List.splitOn_append_cons_self_of_not_mem h, hcuts, List.getLast?_cons_cons,
    List.dropLast_cons_cons]
  split <;> rfl

/-- Pieces that are written with a NUL after each are cut apart again. -/
theorem pieces_flatMap {α : Type} {body : α → Bytes} {l : List α} (h : ∀ a ∈ l, 0 ∉ body a) :
    pieces (l.flatMap fun a => body a ++ [0]) = l.map body := by
  induction l with
  | nil => rfl
  | cons a l ih =>
    obtain ⟨ha, hl⟩ := List.forall_mem_cons.1 h
    rw [List.flatMap_cons, List.append_assoc, List.singleton_append, pieces_append_cons ha, ih hl,
      List.map_cons]

/-- A piece is an entry: the key up to its first `=`, and the value after that. -/
structure Spells (piece : Bytes) (entry : Text × Text) : Prop where
  parts : piece = Utf8.encode entry.1 ++ 0x3D :: Utf8.encode entry.2
  first : 0x3D ∉ Utf8.encode entry.1

/-- The first fault of a piece that starts at an offset. -/
inductive Fault (offset : Nat) : Bytes → Error → Prop where
  | noSeparator {piece : Bytes} : 0x3D ∉ piece → Fault offset piece (.missingSeparator offset)
  | key {key value : Bytes} : 0x3D ∉ key → ¬ Utf8.Valid key →
    Fault offset (key ++ 0x3D :: value) (.invalidUtf8 offset)
  | value {key value : Bytes} : 0x3D ∉ key → Utf8.Valid key → ¬ Utf8.Valid value →
    Fault offset (key ++ 0x3D :: value) (.invalidUtf8 (offset + key.length + 1))

/-- Reading a piece finds the entry that it spells or its first fault. -/
theorem decodeEntry_spec (offset : Nat) (piece : Bytes) :
    (∃ entry, decodeEntry offset piece = .ok entry ∧ Spells piece entry) ∨
      ∃ error, decodeEntry offset piece = .error error ∧ Fault offset piece error := by
  cases hcut : cutFirst 0x3D piece with
  | none => exact .inr ⟨_, by simp only [decodeEntry, hcut], .noSeparator (cutFirst_eq_none_iff.1 hcut)⟩
  | some parts =>
    obtain ⟨key, value⟩ := parts
    obtain ⟨rfl, hfirst⟩ := cutFirst_eq_some_iff.1 hcut
    cases hkey : Utf8.decode key with
    | none =>
      exact .inr ⟨_, by simp only [decodeEntry, hcut, hkey],
        .key hfirst (Utf8.decode_eq_none_iff.1 hkey)⟩
    | some k =>
      obtain rfl := Utf8.encode_of_decode hkey
      cases hvalue : Utf8.decode value with
      | none =>
        exact .inr ⟨_, by simp only [decodeEntry, hcut, hkey, hvalue],
          .value hfirst ⟨k, rfl⟩ (Utf8.decode_eq_none_iff.1 hvalue)⟩
      | some v =>
        obtain rfl := Utf8.encode_of_decode hvalue
        exact .inl ⟨(k, v), by simp only [decodeEntry, hcut, hkey, hvalue], rfl, hfirst⟩

theorem Spells.decodeEntry_eq {piece : Bytes} {entry : Text × Text} (h : Spells piece entry)
    (offset : Nat) : decodeEntry offset piece = .ok entry := by
  simp only [decodeEntry, h.parts, cutFirst_append_cons h.first, Utf8.decode_encode]

theorem Spells.unique {piece : Bytes} {a b : Text × Text} (ha : Spells piece a)
    (hb : Spells piece b) : a = b :=
  Except.ok.inj ((ha.decodeEntry_eq 0).symm.trans (hb.decodeEntry_eq 0))

/-- Reads pieces as entries. The first of them starts at `offset`. -/
def readPieces (offset : Nat) (found : LaunchData) : List Bytes → Except Error LaunchData
  | [] => .ok found
  | piece :: rest =>
    match decodeEntry offset piece with
    | .error error => .error error
    | .ok entry => readPieces (offset + piece.length + 1) (found.insert entry.1 entry.2) rest

theorem readEntries_eq_readPieces (offset : Nat) (found : LaunchData) {begun : Bytes}
    (h : 0 ∉ begun) (bytes : Bytes) :
    readEntries offset begun found bytes = readPieces offset found (pieces (begun ++ bytes)) := by
  induction bytes generalizing offset begun found with
  | nil =>
    rw [readEntries, List.append_nil]
    split
    · next hnil => rw [hnil, pieces_nil, readPieces]
    · next hne =>
      rw [pieces_of_not_mem h hne, readPieces]
      cases decodeEntry offset begun <;> rfl
  | cons b rest ih =>
    rw [readEntries]
    split
    · next hb =>
      rw [hb, pieces_append_cons h, readPieces]
      cases decodeEntry offset begun with
      | error error => rfl
      | ok entry => exact ih _ _ List.not_mem_nil
    · next hb =>
      rw [ih offset found (by simp [h, Ne.symm hb]), List.append_assoc, List.singleton_append]

/-- Pieces that spell entries are read as these entries, set in turn, before the pieces after
them. -/
theorem readPieces_append (offset : Nat) (found : LaunchData) {ps : List Bytes}
    {entries : List (Text × Text)} (h : List.Forall₂ Spells ps entries) (rest : List Bytes) :
    readPieces offset found (ps ++ rest) =
      readPieces (offset + (ps.flatMap (· ++ [0])).length) (found.insertMany entries) rest := by
  induction h generalizing offset found with
  | nil => rfl
  | @cons piece entry ps entries hpiece _ ih =>
    have hoffset : offset + piece.length + 1 + (ps.flatMap (· ++ [0])).length =
        offset + ((piece :: ps).flatMap (· ++ [0])).length := by
      rw [List.flatMap_cons, List.length_append, List.length_append, List.length_singleton]
      omega
    rw [List.cons_append, readPieces, hpiece.decodeEntry_eq]
    exact (ih _ _).trans (by rw [hoffset, insertMany_cons])

theorem readPieces_of_spells (offset : Nat) (found : LaunchData) {ps : List Bytes}
    {entries : List (Text × Text)} (h : List.Forall₂ Spells ps entries) :
    readPieces offset found ps = .ok (found.insertMany entries) := by
  simpa only [List.append_nil, readPieces] using readPieces_append offset found h []

/-- A binary is its last bytes, which hold a size, and what stands before them. -/
theorem parse_append (front : Bytes) {field : Bytes} (h : field.length = sizeBytes) :
    parse (front ++ field) =
      let size := Signed64.ofWord (ofLittleEndian field)
      if 0 ≤ size ∧ size ≤ front.length then
        readPieces (front.length - size.toNat) empty
          (pieces (front.drop (front.length - size.toNat)))
      else .error (.invalidSize size (front ++ field).length) := by
  have hlength : (front ++ field).length - sizeBytes = front.length := by
    rw [List.length_append, h, Nat.add_sub_cancel]
  have hlong : ¬ (front ++ field).length < sizeBytes := by
    rw [List.length_append, h]
    omega
  simp only [parse, if_neg hlong, hlength, List.drop_left, List.take_left,
    readEntries_eq_readPieces _ _ List.not_mem_nil, List.nil_append]

end RuntimeLauncher.LaunchData
