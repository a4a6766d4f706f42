import RuntimeLauncher.LaunchData.Codec
import RuntimeLauncher.Proofs.FileSystem.Writing
import RuntimeLauncher.Proofs.LaunchData.Storage

/-! Adding launch data to one binary again and again: what the binary holds after any calls, and
which data is read from it. -/
namespace RuntimeLauncher.LaunchData

/-- A call that adds data to a binary: its answer, and the files after it. -/
def addTo (data : LaunchData) (path : Path) (fs : FileSystem) : Except Error Unit × FileSystem :=
  match data.appendTo fs path with
  | .error error => (.error error, fs)
  | .ok files => (.ok (), files)

/-- Calls on one binary, one after the other. -/
def addAll (path : Path) : List LaunchData → FileSystem → List (Except Error Unit) × FileSystem
  | [], fs => ([], fs)
  | data :: rest, fs =>
    let first := data.addTo path fs
    let others := addAll path rest first.2
    (first.1 :: others.1, others.2)

/-- The stored forms of those data that have one, in order. -/
def storedForms (calls : List LaunchData) : Bytes :=
  (calls.filterMap fun data => data.encode.toOption).flatten

/-- The last of some data that has a stored form. -/
def LastStored (calls : List LaunchData) (data : LaunchData) (bytes : Bytes) : Prop :=
  ∃ before after, calls = before ++ data :: after ∧ data.encode = .ok bytes ∧
    ∀ later ∈ after, ∃ error, later.encode = .error error

theorem storedForms_cons_of_ok {data : LaunchData} {bytes : Bytes} (h : data.encode = .ok bytes)
    (calls : List LaunchData) : storedForms (data :: calls) = bytes ++ storedForms calls := by
  simp only [storedForms, List.filterMap_cons, h, Except.toOption, List.flatten_cons]

theorem storedForms_cons_of_error {data : LaunchData} {error : Error}
    (h : data.encode = .error error) (calls : List LaunchData) :
    storedForms (data :: calls) = storedForms calls := by
  simp only [storedForms, List.filterMap_cons, h, Except.toOption]

theorem storedForms_append (calls later : List LaunchData) :
    storedForms (calls ++ later) = storedForms calls ++ storedForms later := by
  rw [storedForms, List.filterMap_append, List.flatten_append, storedForms, storedForms]

theorem storedForms_of_errors {calls : List LaunchData}
    (h : ∀ data ∈ calls, ∃ error, data.encode = .error error) : storedForms calls = [] := by
  induction calls with
  | nil => rfl
  | cons data calls ih =>
    obtain ⟨⟨error, herror⟩, hcalls⟩ := List.forall_mem_cons.1 h
    rw [storedForms_cons_of_error herror, ih hcalls]

/-- What is stored ends with the stored form of the last data that has one. -/
theorem LastStored.storedForms_eq {calls : List LaunchData} {data : LaunchData} {bytes : Bytes}
    (h : LastStored calls data bytes) : ∃ front, storedForms calls = front ++ bytes := by
  obtain ⟨before, after, rfl, hencode, hafter⟩ := h
  exact ⟨storedForms before, by rw [storedForms_append, storedForms_cons_of_ok hencode,
    storedForms_of_errors hafter, List.append_nil]⟩

theorem exists_lastStored {calls : List LaunchData} {data : LaunchData} (hmem : data ∈ calls)
    {bytes : Bytes} (h : data.encode = .ok bytes) : ∃ data bytes, LastStored calls data bytes := by
  induction calls generalizing data bytes with
  | nil => exact absurd hmem List.not_mem_nil
  | cons first rest ih =>
    by_cases hrest : ∀ later ∈ rest, ∃ error, later.encode = .error error
    · rcases List.mem_cons.1 hmem with rfl | hmem
      · exact ⟨data, bytes, [], rest, rfl, h, hrest⟩
      · obtain ⟨error, herror⟩ := hrest data hmem
        rw [h] at herror
        contradiction
    · push Not at hrest
      obtain ⟨later, hlater, hnone⟩ := hrest
      cases hencode : later.encode with
      | error error => exact absurd hencode (hnone error)
      | ok stored =>
        obtain ⟨last, stored, before, after, rfl, hlast⟩ := ih hlater hencode
        exact ⟨last, stored, first :: before, after, rfl, hlast⟩

theorem addTo_of_error {data : LaunchData} {error : Error} (h : data.encode = .error error)
    (path : Path) (fs : FileSystem) : data.addTo path fs = (.error error, fs) := by
  simp only [addTo, appendTo, h]

theorem addTo_of_missing {data : LaunchData} {bytes : Bytes} (h : data.encode = .ok bytes)
    {path : Path} {fs : FileSystem} (hmissing : fs.node? path = none) :
    ∃ cause, data.addTo path fs = (.error (.io path cause), fs) := by
  obtain ⟨cause, happend⟩ := FileSystem.append_eq_error_of_missing hmissing bytes
  exact ⟨cause, by simp only [addTo, appendTo, h, happend]⟩

section File
variable {fs : FileSystem} {path : Path} {location : Location} {content : Bytes} {access : Access}

theorem appendTo_of_fileAt {data : LaunchData} {bytes : Bytes} (h : data.encode = .ok bytes)
    (hfile : fs.FileAt path location content access) (hwritable : access.writable = true) :
    data.appendTo fs path = .ok (fs.put location (some (.file (content ++ bytes) access))) := by
  have happend : fs.append path bytes =
      .ok (fs.put location (some (.file (content ++ bytes) access))) :=
    FileSystem.append_eq_ok_iff.2 ⟨location, content, access, hfile, hwritable, rfl⟩
  simp only [appendTo, h, happend]

theorem appendTo_of_readOnly {data : LaunchData} {bytes : Bytes} (h : data.encode = .ok bytes)
    (hfile : fs.FileAt path location content access) (hreadOnly : access.writable = false) :
    data.appendTo fs path = .error (.io path .permissionDenied) := by
  simp only [appendTo, h, hfile.append_of_readOnly hreadOnly]

/-- A binary that ends with stored data carries this data, whatever stands before it. -/
theorem ofBinary_of_fileAt {data : LaunchData} {front bytes : Bytes} (h : data.encode = .ok bytes)
    (hlength : bytes.length < 2 ^ 63) (hfile : fs.FileAt path location (front ++ bytes) access)
    (hreadable : access.readable = true) : ofBinary fs path = .ok data := by
  obtain ⟨hall, rfl⟩ := encode_eq_ok_iff.1 h
  rw [List.length_append] at hlength
  have hparse := parse_append_region hall (lt_of_le_of_lt (Nat.le_add_right _ _) hlength) front
  have hlong : ¬ (front ++ (data.region ++ littleEndian sizeBytes data.region.length)).length <
      sizeBytes := by
    simp only [List.length_append, length_littleEndian]
    omega
  simp only [ofBinary, hfile.read_eq hreadable, if_neg hlong, hparse]

/-- Every call answers as its data can be stored, and the binary grows by what is stored. -/
theorem addAll_of_fileAt (hfile : fs.FileAt path location content access)
    (hwritable : access.writable = true) (calls : List LaunchData) :
    addAll path calls fs =
      (calls.map fun data => data.encode.map fun _ => (),
        fs.put location (some (.file (content ++ storedForms calls) access))) := by
  induction calls generalizing fs content with
  | nil =>
    have hsame : fs.put location (some (.file (content ++ storedForms []) access)) = fs :=
      FileSystem.put_self (hfile.node.trans (by rw [storedForms]; simp))
    rw [addAll, hsame, List.map_nil]
  | cons data rest ih =>
    rw [addAll, List.map_cons]
    cases hencode : data.encode with
    | error error =>
      rw [addTo_of_error hencode, ih hfile, storedForms_cons_of_error hencode]
      rfl
    | ok bytes =>
      have hadd : data.addTo path fs =
          (.ok (), fs.put location (some (.file (content ++ bytes) access))) := by
        simp only [addTo, appendTo_of_fileAt hencode hfile hwritable]
      rw [hadd, ih (hfile.put (content ++ bytes) access), storedForms_cons_of_ok hencode,
        FileSystem.put_put, List.append_assoc]
      rfl

end File

/-- After any calls on a binary, the binary is what it was and behind that the stored forms of the
data that have one, in the order of the calls, and the last of these data is read from it. Data that
has no stored form is refused and changes nothing, wherever it was to go. Other data is refused
where there is no file, and none is made. -/
theorem addAll_binary {fs : FileSystem} {path : Path} {location : Location} {content : Bytes}
    {access : Access} (hfile : fs.FileAt path location content access)
    (hreadable : access.readable = true) (hwritable : access.writable = true)
    (calls : List LaunchData) :
    addAll path calls fs =
        (calls.map fun data => data.encode.map fun _ => (),
          fs.put location (some (.file (content ++ storedForms calls) access))) ∧
      ((∃ data ∈ calls, ∃ bytes, data.encode = .ok bytes) →
        ∃ data bytes, LastStored calls data bytes) ∧
      (∀ data bytes, LastStored calls data bytes → bytes.length < 2 ^ 63 →
        ofBinary (addAll path calls fs).2 path = .ok data) ∧
      (∀ (data : LaunchData) error, data.encode = .error error →
        ∀ p files, data.addTo p files = (.error error, files)) ∧
      ∀ (data : LaunchData) bytes, data.encode = .ok bytes →
        ∀ p files, FileSystem.node? files p = none →
          ∃ cause, data.addTo p files = (.error (.io p cause), files) := by
  have hrun := addAll_of_fileAt hfile hwritable calls
  refine ⟨hrun, ?_, ?_, ?_, ?_⟩
  · rintro ⟨data, hmem, bytes, hencode⟩
    exact exists_lastStored hmem hencode
  · intro data bytes hlast hlength
    obtain ⟨front, hfront⟩ := hlast.storedForms_eq
    obtain ⟨before, after, -, hencode, -⟩ := hlast
    have hafter := hfile.put (content ++ storedForms calls) access
    rw [hfront, ← List.append_assoc] at hafter
    rw [hrun, hfront, ← List.append_assoc]
    exact ofBinary_of_fileAt hencode hlength hafter hreadable
  · exact fun data error herror p files => addTo_of_error herror p files
  · exact fun data bytes hencode p files hmissing => addTo_of_missing hencode hmissing

/-- A binary that holds older launch data. -/
def olderBinary : Bytes := [0x61, 0x3D, 0x62, 0, 4, 0, 0, 0, 0, 0, 0, 0]

def olderTree : FileSystem :=
  (FileSystem.empty "/w".toList).place "App".toList (.file olderBinary {})

/-- Two data with a stored form and one without between them. -/
def mixedCalls : List LaunchData :=
  [ofList [(['k'], ['1']), (['n'], [])], ofList [([], ['x'])], ofList [(['k'], ['2'])]]

theorem addAll_binary_mixed :
    olderTree.FileAt "App".toList ["w".toList, "App".toList] olderBinary {} ∧
    (addAll "App".toList mixedCalls olderTree).1 = [.ok (), .error (.invalidKey []), .ok ()] ∧
    (addAll "App".toList mixedCalls olderTree).2.read "App".toList =
      .ok (olderBinary ++ [0x6B, 0x3D, 0x31, 0, 0x6E, 0x3D, 0, 7, 0, 0, 0, 0, 0, 0, 0] ++
        [0x6B, 0x3D, 0x32, 0, 4, 0, 0, 0, 0, 0, 0, 0]) ∧
    ofBinary (addAll "App".toList mixedCalls olderTree).2 "App".toList =
      .ok (ofList [(['k'], ['2'])]) :=
  have hfile : olderTree.FileAt "App".toList ["w".toList, "App".toList] olderBinary {} := ⟨rfl, rfl⟩
  have hrun := addAll_binary hfile rfl rfl mixedCalls
  have hlast : LastStored mixedCalls (ofList [(['k'], ['2'])])
      [0x6B, 0x3D, 0x32, 0, 4, 0, 0, 0, 0, 0, 0, 0] :=
    ⟨mixedCalls.take 2, [], rfl, rfl, fun _ h => absurd h List.not_mem_nil⟩
  have hread := (hfile.put (olderBinary ++ storedForms mixedCalls) {}).read_eq rfl
  ⟨hfile, congrArg Prod.fst hrun.1, (congrArg (fun run => run.2.read "App".toList) hrun.1).trans hread,
    hrun.2.2.1 _ _ hlast (by decide)⟩

end RuntimeLauncher.LaunchData
