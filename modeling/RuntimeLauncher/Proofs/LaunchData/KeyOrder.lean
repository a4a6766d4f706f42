import RuntimeLauncher.Proofs.LaunchData.Storage
import RuntimeLauncher.Proofs.Text.Order

/-! Launch data in the order of its keys, byte by byte: the entries of a stored region stand in it,
and the first entry in it that cannot be stored is the one that is reported. -/
namespace RuntimeLauncher.LaunchData

/-- The keys in a stored region: what stands before the first `=` of each piece. -/
def regionKeys (region : Bytes) : List Bytes :=
  (pieces region).map fun piece => piece.takeWhile (· ≠ 0x3D)

/-- What is wrong with the first bad entry, if entries are ordered by the bytes of their keys. -/
def FirstEntryFault (holds : Text → Text → Prop) (error : Error) : Prop :=
  ∃ key value, holds key value ∧ EntryFault (key, value) error ∧
    ∀ key' value', holds key' value' → Utf8.encode key' < Utf8.encode key →
      Storable (key', value')

theorem takeWhile_entryBody {entry : Text × Text} (h : '=' ∉ entry.1) :
    (entryBody entry).takeWhile (· ≠ 0x3D) = Utf8.encode entry.1 := by
  have hspells : Spells (entryBody entry) entry := spells_iff.2 ⟨rfl, h⟩
  have hall : ∀ b ∈ Utf8.encode entry.1, decide (b ≠ 0x3D) = true := by
    intro b hb
    refine decide_eq_true ?_
    rintro rfl
    exact hspells.first hb
  rw [entryBody, List.takeWhile_append_of_pos hall, List.takeWhile_cons_of_neg (by decide),
    List.append_nil]

theorem regionKeys_region {data : LaunchData} (h : ∀ entry ∈ data.entries, Storable entry) :
    regionKeys data.region = data.keys.map Utf8.encode := by
  rw [regionKeys, pieces_region h, keys, List.map_map, List.map_map]
  exact List.map_congr_left fun entry hentry => takeWhile_entryBody (h entry hentry).separator

theorem pairwise_regionKeys {data : LaunchData} (h : ∀ entry ∈ data.entries, Storable entry) :
    (regionKeys data.region).Pairwise (· < ·) := by
  rw [regionKeys_region h, List.pairwise_map]
  exact data.pairwise_keys.imp Utf8.encode_lt_encode

theorem mem_regionKeys_iff {data : LaunchData} (h : ∀ entry ∈ data.entries, Storable entry)
    {bytes : Bytes} : bytes ∈ regionKeys data.region ↔
      ∃ key value, data.get? key = some value ∧ Utf8.encode key = bytes := by
  simp only [regionKeys_region h, keys, List.mem_map, ← mem_entries_iff]
  constructor
  · rintro ⟨key, ⟨⟨_, value⟩, hentry, rfl⟩, hbytes⟩
    exact ⟨_, value, hentry, hbytes⟩
  · rintro ⟨key, value, hentry, hbytes⟩
    exact ⟨key, ⟨(key, value), hentry, rfl⟩, hbytes⟩

theorem firstEntryFault_of_encode {data : LaunchData} {error : Error}
    (h : data.encode = .error error) :
    FirstEntryFault (fun key value => data.get? key = some value) error := by
  obtain ⟨before, ⟨key, value⟩, after, hentries, herror, hbefore⟩ :=
    List.findSome?_eq_some_iff.1 (encode_eq_error_iff.1 h)
  have hincreasing := data.increasing
  rw [hentries, List.pairwise_append, List.pairwise_cons] at hincreasing
  have hmem : (key, value) ∈ data.entries := by
    rw [hentries]
    exact List.mem_append_right before List.mem_cons_self
  refine ⟨key, value, mem_entries_iff.1 hmem, entryError?_eq_some_iff.1 herror, ?_⟩
  intro key' value' hvalue hlt
  -- the list is in this order, so an entry with a smaller key stands in front
  rw [Utf8.encode_lt_encode_iff] at hlt
  have hmem' : (key', value') ∈ before ++ (key, value) :: after := hentries ▸ mem_entries_iff.2 hvalue
  rcases List.mem_append.1 hmem' with hearlier | hrest
  · exact entryError?_eq_none_iff.1 (hbefore _ hearlier)
  rcases List.mem_cons.1 hrest with heq | hlater
  · obtain ⟨rfl, -⟩ := Prod.mk.inj heq
    exact absurd hlt (List.lt_irrefl key')
  · have hgt : key < key' := hincreasing.2.1.1 _ hlater
    exact absurd hlt (List.lt_asymm hgt)

end RuntimeLauncher.LaunchData
