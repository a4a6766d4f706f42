import RuntimeLauncher.Proofs.LaunchData.Appending
import RuntimeLauncher.Proofs.Toml.Keys
import RuntimeLauncher.Tool.Perform

/-! Embedding launch data: what becomes of the launcher, and what the output holds. -/
namespace RuntimeLauncher.Tool

theorem nodup_readEntries {fs : FileSystem} {file : Path} {table : List (Text × Text)}
    (h : readEntries fs file = .ok table) : (table.map (·.1)).Nodup := by
  unfold readEntries at h
  split at h
  · contradiction
  · split at h
    · contradiction
    · next text _ entries hentries =>
      obtain rfl := Except.ok.inj h
      obtain ⟨parsed, hparse, hstrings⟩ := Option.bind_eq_some_iff.1 hentries
      rw [Toml.Table.map_fst_strings? hstrings]
      exact Toml.distinct_parse hparse

/-- The table of strings that the entries file of a request holds. -/
def EmbedRequest.HasTable (r : EmbedRequest) (fs : FileSystem) (table : List (Text × Text)) : Prop :=
  match r.entries with
  | none => table = []
  | some file => readEntries fs file = .ok table

theorem EmbedRequest.HasTable.nodup {r : EmbedRequest} {fs : FileSystem}
    {table : List (Text × Text)} (h : r.HasTable fs table) : (table.map (·.1)).Nodup := by
  unfold EmbedRequest.HasTable at h
  split at h
  · rw [h]
    exact List.nodup_nil
  · exact nodup_readEntries h

theorem data_eq_ok_iff {r : EmbedRequest} {fs : FileSystem} {data : LaunchData} :
    r.data fs = .ok data ↔
      ∃ table, r.HasTable fs table ∧ (LaunchData.ofList table).insertMany r.set = data := by
  unfold EmbedRequest.data EmbedRequest.HasTable
  cases r.entries with
  | none => simp
  | some file => simp only [bind_eq_ok_iff, pure_eq_ok, Except.ok.injEq]

/-- Entries that cannot be had are reported as such. -/
theorem data_ne_launchData (r : EmbedRequest) (fs : FileSystem) (cause : LaunchData.Error) :
    r.data fs ≠ .error (.launchData cause) := by
  unfold EmbedRequest.data
  cases r.entries with
  | none => simp
  | some file =>
    intro h
    rcases bind_eq_error_iff.1 h with hentries | ⟨entries, -, hpure⟩
    · unfold readEntries at hentries
      split at hentries
      · cases hentries
      · split at hentries
        · cases hentries
        · cases hentries
    · cases hpure

/-- A single entry overrides the table, and a later one overrides it. -/
theorem get?_data_eq_some_iff {r : EmbedRequest} {fs : FileSystem} {table : List (Text × Text)}
    (h : r.HasTable fs table) {key value : Text} :
    ((LaunchData.ofList table).insertMany r.set).get? key = some value ↔
      LaunchData.LastPair r.set key value ∨
        (∀ pair ∈ r.set, pair.1 ≠ key) ∧ (key, value) ∈ table := by
  rw [LaunchData.get?_insertMany_eq_some_iff, LaunchData.get?_ofList,
    LaunchData.lookup_reverse_eq_some_iff, LaunchData.lastPair_iff_mem h.nodup]

/-- Nothing stands in the way of a copy: the output is spelled unlike the launcher, there is data
with a stored form, the launcher can be read and the output written. -/
structure Copies (fs : FileSystem) (r : EmbedRequest) (data : LaunchData) (bytes : Bytes)
    (origin : Location) (image : Bytes) (access : Access) (goal : Location) : Prop where
  spelling : Path.components r.output ≠ Path.components r.launcher
  described : r.data fs = .ok data
  stored : data.encode = .ok bytes
  launcher : fs.FileAt r.launcher origin image access
  readable : access.readable = true
  output : fs.CanWrite r.output goal

section Copies
variable {fs : FileSystem} {r : EmbedRequest} {data : LaunchData} {bytes : Bytes}
  {origin goal : Location} {image : Bytes} {access : Access}

/-- A launcher that its copy may not write either gets a copy without data. -/
theorem Copies.embed_of_readOnly (h : Copies fs r data bytes origin image access goal)
    (hreadOnly : access.writable = false) :
    embed fs r = ⟨.error (.launchData (.io r.output .permissionDenied)), [],
      fs.put goal (some (.file (if goal = origin then [] else image) access))⟩ := by
  have hcopy := h.output.copy_eq h.launcher h.readable
  have hcopied := h.output.fileAt_put (if goal = origin then [] else image) access
  have happend := LaunchData.appendTo_of_readOnly h.stored hcopied hreadOnly
  simp only [embed, if_neg h.spelling, h.described, h.stored, hcopy, happend]

theorem Copies.embed_of_writable (h : Copies fs r data bytes origin image access goal)
    (hwritable : access.writable = true) :
    embed fs r = ⟨.ok (r.confirmation data), [.dataEmbedded r.output data.keys],
      fs.put goal (some (.file ((if goal = origin then [] else image) ++ bytes) access))⟩ := by
  have hcopy := h.output.copy_eq h.launcher h.readable
  have hcopied := h.output.fileAt_put (if goal = origin then [] else image) access
  have happend := LaunchData.appendTo_of_fileAt h.stored hcopied hwritable
  rw [FileSystem.put_put] at happend
  simp only [embed, if_neg h.spelling, h.described, h.stored, hcopy, happend]

/-- Before the copy, every refusal leaves the files as they were, and an error of launch data is one
of storing the data. -/
theorem embed_cases (fs : FileSystem) (r : EmbedRequest) :
    (∃ error, embed fs r = ⟨.error error, [], fs⟩ ∧ ∀ cause, error = .launchData cause →
      ∃ data, r.data fs = .ok data ∧ data.encode = .error cause) ∨
      ∃ data bytes origin image access goal, Copies fs r data bytes origin image access goal := by
  by_cases hspelling : Path.components r.output = Path.components r.launcher
  · exact .inl ⟨.outputIsLauncher r.output, by rw [embed, if_pos hspelling], by simp⟩
  cases hdata : r.data fs with
  | error error =>
    refine .inl ⟨error, by simp only [embed, if_neg hspelling, hdata], ?_⟩
    rintro cause rfl
    exact absurd hdata (data_ne_launchData r fs cause)
  | ok data =>
    cases hencode : data.encode with
    | error error =>
      refine .inl ⟨.launchData error, by simp only [embed, if_neg hspelling, hdata, hencode], ?_⟩
      rintro cause heq
      obtain rfl := Error.launchData.inj heq
      exact ⟨data, rfl, hencode⟩
    | ok bytes =>
      cases hcopy : fs.copy r.launcher r.output with
      | error cause =>
        exact .inl ⟨.copyFailed r.launcher r.output cause, by
          simp only [embed, if_neg hspelling, hdata, hencode, hcopy], by simp⟩
      | ok copied =>
        obtain ⟨origin, image, access, goal, hlauncher, hreadable, houtput, -⟩ :=
          FileSystem.copy_eq_ok_iff.1 hcopy
        exact .inr ⟨data, bytes, origin, image, access, goal, hspelling, hdata, hencode, hlauncher,
          hreadable, houtput⟩

theorem embed_refused_or_copies (fs : FileSystem) (r : EmbedRequest) :
    (∃ error, embed fs r = ⟨.error error, [], fs⟩) ∨
      ∃ data bytes origin image access goal, Copies fs r data bytes origin image access goal := by
  rcases embed_cases fs r with ⟨error, hrefused, -⟩ | hcopies
  · exact .inl ⟨error, hrefused⟩
  · exact .inr hcopies

end Copies

/-- The launcher keeps its content, unless its place is also the place of an output that is
spelled otherwise, and nothing else stands in the way of the copy. Then the data is all that is
left of it. -/
theorem embed_launcher {fs : FileSystem} {r : EmbedRequest} {origin : Location} {image : Bytes}
    {access : Access} (h : fs.FileAt r.launcher origin image access) :
    (¬ fs.SamePlace r.output r.launcher →
      (embed fs r).files.node origin = some (.file image access)) ∧
    ((∀ data bytes, ¬ Copies fs r data bytes origin image access origin) →
      (embed fs r).files.node origin = some (.file image access)) ∧
    ∀ data bytes, Copies fs r data bytes origin image access origin →
      (embed fs r).result = .ok (r.confirmation data) ∧
        (embed fs r).files.node origin = some (.file bytes access) := by
  have hkept : (∀ data bytes, ¬ Copies fs r data bytes origin image access origin) →
      (embed fs r).files.node origin = some (.file image access) := by
    intro hnone
    rcases embed_refused_or_copies fs r with
      ⟨error, hrefused⟩ | ⟨data, bytes, origin', image', access', goal, hcopies⟩
    · rw [hrefused]
      exact h.node
    · obtain ⟨rfl, rfl, rfl⟩ := h.unique hcopies.launcher
      have hne : origin ≠ goal := by
        rintro rfl
        exact hnone data bytes hcopies
      cases hwritable : access.writable with
      | false => rw [hcopies.embed_of_readOnly hwritable, FileSystem.node_put, if_neg hne, h.node]
      | true => rw [hcopies.embed_of_writable hwritable, FileSystem.node_put, if_neg hne, h.node]
  refine ⟨fun hother => hkept fun data bytes hcopies => hother ?_, hkept, fun data bytes hcopies => ?_⟩
  · exact ⟨origin, FileSystem.locate_of_locateForWriting hcopies.output.locate, h.locate⟩
  · have hwritable := hcopies.output.writable h.node
    rw [hcopies.embed_of_writable hwritable, FileSystem.node_put, if_pos rfl, if_pos rfl,
      List.nil_append]
    exact ⟨rfl, rfl⟩

/-- A launcher, a link to it, and entries for a copy. The launcher ends with older launch data. -/
def launcherImage : Bytes := [0x7F, 0x61, 0x3D, 0x62, 0, 4, 0, 0, 0, 0, 0, 0, 0]

def launcherTree : FileSystem :=
  let tree := (FileSystem.empty "/w".toList).place "launcher".toList (.file launcherImage {})
  let tree := tree.place "alias".toList (.link "launcher".toList)
  tree.place "entries".toList (.file (Utf8.encode "a = \"1\"\nc = \"\"\n".toList) {})

def launcherLocation : Location := ["w".toList, "launcher".toList]

/-- The stored form of the entry `k=v`. -/
def storedEntry : Bytes := [0x6B, 0x3D, 0x76, 0, 4, 0, 0, 0, 0, 0, 0, 0]

def requestTo (output : Path) : EmbedRequest :=
  ⟨"launcher".toList, output, none, [(['k'], ['v'])]⟩

theorem fileAt_launcher :
    launcherTree.FileAt "launcher".toList launcherLocation launcherImage {} := ⟨rfl, rfl⟩

theorem copies_requestTo {output : Path} {goal : Location}
    (hspelling : Path.components output ≠ Path.components "launcher".toList)
    (houtput : launcherTree.CanWrite output goal) :
    Copies launcherTree (requestTo output) (LaunchData.ofList [(['k'], ['v'])]) storedEntry
      launcherLocation launcherImage {} goal :=
  ⟨hspelling, rfl, rfl, fileAt_launcher, rfl, houtput⟩

theorem not_samePlace_app : ¬ launcherTree.SamePlace "App".toList "launcher".toList := by
  rintro ⟨location, houtput, hlauncher⟩
  have heq : Except.ok ["w".toList, "App".toList] = Except.ok launcherLocation :=
    houtput.trans (hlauncher.symm.trans fileAt_launcher.locate)
  exact absurd (Except.ok.inj heq) (by decide)

/-- Through a link the launcher is lost; a file of another name takes nothing from it. -/
theorem embed_launcher_linked :
    launcherTree.FileAt "launcher".toList launcherLocation launcherImage {} ∧
    (embed launcherTree (requestTo "alias".toList)).files.node launcherLocation =
      some (.file storedEntry {}) ∧
    (embed launcherTree (requestTo "App".toList)).files.node launcherLocation =
      some (.file launcherImage {}) := by
  have hlink : launcherTree.CanWrite "alias".toList launcherLocation :=
    ⟨rfl, .inr ⟨launcherImage, {}, rfl, rfl⟩⟩
  have hcopies := copies_requestTo (by decide) hlink
  have hlost := (embed_launcher (r := requestTo "alias".toList) fileAt_launcher).2.2 _ _ hcopies
  have hkept := (embed_launcher (r := requestTo "App".toList) fileAt_launcher).1 not_samePlace_app
  exact ⟨fileAt_launcher, hlost.2, hkept⟩

/-- The same path with a `.` in front is another path, but no other file. The request succeeds, and
what the launcher held is gone. -/
theorem embed_respelled_launcher :
    launcherTree.FileAt "launcher".toList launcherLocation launcherImage {} ∧
    (embed launcherTree (requestTo "./launcher".toList)).result =
      .ok ((requestTo "./launcher".toList).confirmation (LaunchData.ofList [(['k'], ['v'])])) ∧
    (embed launcherTree (requestTo "./launcher".toList)).files.node launcherLocation =
      some (.file storedEntry {}) ∧
    storedEntry ≠ launcherImage := by
  have hdot : launcherTree.CanWrite "./launcher".toList launcherLocation :=
    ⟨rfl, .inr ⟨launcherImage, {}, rfl, rfl⟩⟩
  have hembed := (copies_requestTo (by decide) hdot).embed_of_writable rfl
  rw [if_pos rfl, List.nil_append] at hembed
  rw [hembed]
  have hlost := FileSystem.node_put launcherTree launcherLocation launcherLocation
    (some (.file storedEntry {}))
  rw [if_pos rfl] at hlost
  exact ⟨fileAt_launcher, rfl, hlost, by decide⟩

/-- If data is embedded in another file than the launcher, this file holds what the launcher held
and behind that the stored form of the data, and the data is read from it. -/
theorem embed_output {fs : FileSystem} {r : EmbedRequest} {message : Text}
    (h : (embed fs r).result = .ok message) (hother : ¬ fs.SamePlace r.output r.launcher) :
    ∃ table data bytes origin image access goal,
      r.HasTable fs table ∧
      (∀ key value, data.get? key = some value ↔
        LaunchData.LastPair r.set key value ∨
          (∀ pair ∈ r.set, pair.1 ≠ key) ∧ (key, value) ∈ table) ∧
      data.encode = .ok bytes ∧
      fs.FileAt r.launcher origin image access ∧
      (embed fs r).files.FileAt r.output goal (image ++ bytes) access ∧
      (bytes.length < 2 ^ 63 →
        LaunchData.ofBinary (embed fs r).files r.output = .ok data) := by
  rcases embed_refused_or_copies fs r with
    ⟨error, hrefused⟩ | ⟨data, bytes, origin, image, access, goal, hcopies⟩
  · rw [hrefused] at h
    contradiction
  obtain ⟨table, htable, rfl⟩ := data_eq_ok_iff.1 hcopies.described
  have hne : goal ≠ origin := by
    rintro rfl
    exact hother ⟨goal, FileSystem.locate_of_locateForWriting hcopies.output.locate,
      hcopies.launcher.locate⟩
  cases hwritable : access.writable with
  | false =>
    rw [hcopies.embed_of_readOnly hwritable] at h
    contradiction
  | true =>
    have hembed := hcopies.embed_of_writable hwritable
    rw [if_neg hne] at hembed
    have houtput := hcopies.output.fileAt_put (image ++ bytes) access
    rw [hembed]
    exact ⟨table, _, bytes, origin, image, access, goal, htable,
      fun key value => get?_data_eq_some_iff htable, hcopies.stored, hcopies.launcher, houtput,
      fun hlength => LaunchData.ofBinary_of_fileAt hcopies.stored hlength houtput hcopies.readable⟩

/-- A table and single entries that override it and each other. -/
def overridingRequest : EmbedRequest :=
  ⟨"launcher".toList, "App".toList, some "entries".toList,
    [(['c'], ['x']), (['d'], ['y']), (['c'], ['z', '='])]⟩

theorem embed_output_overriding :
    (embed launcherTree overridingRequest).result = .ok (overridingRequest.confirmation
      (LaunchData.ofList [(['a'], ['1']), (['c'], ['z', '=']), (['d'], ['y'])])) ∧
    ¬ launcherTree.SamePlace "App".toList "launcher".toList ∧
    ∃ table data bytes origin image access goal,
      overridingRequest.HasTable launcherTree table ∧
      (∀ key value, data.get? key = some value ↔
        LaunchData.LastPair overridingRequest.set key value ∨
          (∀ pair ∈ overridingRequest.set, pair.1 ≠ key) ∧ (key, value) ∈ table) ∧
      data.encode = .ok bytes ∧
      launcherTree.FileAt overridingRequest.launcher origin image access ∧
      (embed launcherTree overridingRequest).files.FileAt overridingRequest.output goal
        (image ++ bytes) access ∧
      (bytes.length < 2 ^ 63 →
        LaunchData.ofBinary (embed launcherTree overridingRequest).files overridingRequest.output =
          .ok data) := by
  have houtput : launcherTree.CanWrite "App".toList ["w".toList, "App".toList] := ⟨rfl, .inl rfl⟩
  have hcopies : Copies launcherTree overridingRequest
      (LaunchData.ofList [(['a'], ['1']), (['c'], ['z', '=']), (['d'], ['y'])]) _
      launcherLocation launcherImage {} ["w".toList, "App".toList] :=
    ⟨by decide, rfl, rfl, fileAt_launcher, rfl, houtput⟩
  have hok := congrArg Outcome.result (hcopies.embed_of_writable rfl)
  exact ⟨hok, not_samePlace_app, embed_output hok not_samePlace_app⟩

end RuntimeLauncher.Tool
