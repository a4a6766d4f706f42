import RuntimeLauncher.Proofs.LaunchData.KeyOrder
import RuntimeLauncher.Proofs.Tool.Embedding

/-! Embedding the same values twice: what is written does not depend on where they come from. -/
namespace RuntimeLauncher.Tool

open LaunchData (FirstEntryFault LastPair littleEndian regionKeys sizeBytes)

/-- The value that counts for a key: the last one that is set singly, or else that of the table. -/
def Wins (set table : List (Text × Text)) (key value : Text) : Prop :=
  LastPair set key value ∨ (∀ pair ∈ set, pair.1 ≠ key) ∧ (key, value) ∈ table

/-- A request has a table and a launcher, its output is another file, and if it comes to a copy,
that and the addition of data succeed. -/
structure Undisturbed (fs : FileSystem) (r : EmbedRequest) (table : List (Text × Text))
    (image : Bytes) : Prop where
  hasTable : r.HasTable fs table
  launcher : ∃ origin access, fs.FileAt r.launcher origin image access
  /-- A slash behind the name of a file makes a path that leads nowhere, but no other name. -/
  spelling : Path.components r.output ≠ Path.components r.launcher
  place : ¬ fs.SamePlace r.output r.launcher
  writes : ∀ data bytes, r.data fs = .ok data → data.encode = .ok bytes →
    ∃ copied files, fs.copy r.launcher r.output = .ok copied ∧
      data.appendTo copied r.output = .ok files

/-- A request succeeds, and its output then holds these bytes. -/
def Writes (fs : FileSystem) (r : EmbedRequest) (content : Bytes) : Prop :=
  (∃ message, (embed fs r).result = .ok message) ∧
    ∃ goal access, (embed fs r).files.FileAt r.output goal content access

/-- A request fails because of its entries: the error is one of launch data, but not of a file. -/
def Refuses (fs : FileSystem) (r : EmbedRequest) (cause : LaunchData.Error) : Prop :=
  (embed fs r).result = .error (.launchData cause) ∧ ∀ path failure, cause ≠ .io path failure

/-- The data that a request with a table describes. -/
def EmbedRequest.described (r : EmbedRequest) (table : List (Text × Text)) : LaunchData :=
  (LaunchData.ofList table).insertMany r.set

section Entries
variable {fs : FileSystem} {r : EmbedRequest} {table : List (Text × Text)}

theorem EmbedRequest.HasTable.get?_described (h : r.HasTable fs table) {key value : Text} :
    (r.described table).get? key = some value ↔ Wins r.set table key value :=
  get?_data_eq_some_iff h

theorem EmbedRequest.HasTable.data_eq (h : r.HasTable fs table) :
    r.data fs = .ok (r.described table) :=
  data_eq_ok_iff.2 ⟨table, h, rfl⟩

theorem Refuses.encode_eq {cause : LaunchData.Error} (h : Refuses fs r cause)
    (htable : r.HasTable fs table) : (r.described table).encode = .error cause := by
  obtain ⟨hresult, hcause⟩ := h
  rcases embed_cases fs r with
    ⟨error, hrefused, hstoring⟩ | ⟨data, bytes, origin, image, access, goal, hcopies⟩
  · rw [hrefused] at hresult
    obtain ⟨data, hdata, hencode⟩ := hstoring cause (Except.error.inj hresult)
    obtain rfl := Except.ok.inj (hdata.symm.trans htable.data_eq)
    exact hencode
  · cases hwritable : access.writable with
    | false =>
      rw [hcopies.embed_of_readOnly hwritable] at hresult
      obtain rfl := Error.launchData.inj (Except.error.inj hresult)
      exact absurd rfl (hcause r.output .permissionDenied)
    | true =>
      rw [hcopies.embed_of_writable hwritable] at hresult
      contradiction

theorem Refuses.firstEntryFault {cause : LaunchData.Error} (h : Refuses fs r cause)
    (htable : r.HasTable fs table) : FirstEntryFault (Wins r.set table) cause := by
  have hfault := LaunchData.firstEntryFault_of_encode (h.encode_eq htable)
  simp only [htable.get?_described] at hfault
  exact hfault

theorem Writes.exists_stored {content : Bytes} (h : Writes fs r content)
    (htable : r.HasTable fs table) :
    ∃ front bytes, content = front ++ bytes ∧ (r.described table).encode = .ok bytes := by
  obtain ⟨⟨message, hresult⟩, goal, access, hfile⟩ := h
  rcases embed_refused_or_copies fs r with
    ⟨error, hrefused⟩ | ⟨data, bytes, origin, image, access', goal', hcopies⟩
  · rw [hrefused] at hresult
    contradiction
  obtain rfl := Except.ok.inj (hcopies.described.symm.trans htable.data_eq)
  cases hwritable : access'.writable with
  | false =>
    rw [hcopies.embed_of_readOnly hwritable] at hresult
    contradiction
  | true =>
    rw [hcopies.embed_of_writable hwritable] at hfile
    obtain ⟨-, rfl, -⟩ := hfile.unique (hcopies.output.fileAt_put _ access')
    exact ⟨_, bytes, rfl, hcopies.stored⟩

/-- Every output ends with a region and its length. The region has all winning keys in order. -/
theorem Writes.exists_region {content : Bytes} (h : Writes fs r content)
    (htable : r.HasTable fs table) : ∃ front region,
      content = front ++ (region ++ littleEndian sizeBytes region.length) ∧
      (regionKeys region).Pairwise (· < ·) ∧
      ∀ bytes, bytes ∈ regionKeys region ↔
        ∃ key value, Wins r.set table key value ∧ Utf8.encode key = bytes := by
  obtain ⟨front, bytes, rfl, hencode⟩ := h.exists_stored htable
  obtain ⟨hstorable, rfl⟩ := LaunchData.encode_eq_ok_iff.1 hencode
  refine ⟨front, _, rfl, LaunchData.pairwise_regionKeys hstorable, fun key => ?_⟩
  simp only [LaunchData.mem_regionKeys_iff hstorable, htable.get?_described]

end Entries

section Undisturbed
variable {fs : FileSystem} {r : EmbedRequest} {table : List (Text × Text)} {image : Bytes}

theorem Undisturbed.refuses (h : Undisturbed fs r table image) {cause : LaunchData.Error}
    (hencode : (r.described table).encode = .error cause) : Refuses fs r cause := by
  refine ⟨by simp only [embed, if_neg h.spelling, h.hasTable.data_eq, hencode], ?_⟩
  rintro path failure rfl
  exact LaunchData.encode_ne_io _ path failure hencode

theorem Undisturbed.writes_stored (h : Undisturbed fs r table image) {bytes : Bytes}
    (hencode : (r.described table).encode = .ok bytes) : Writes fs r (image ++ bytes) := by
  obtain ⟨copied, files, hcopy, happend⟩ := h.writes _ bytes h.hasTable.data_eq hencode
  obtain ⟨origin, content, access, goal, hsource, hreadable, htarget, rfl⟩ :=
    FileSystem.copy_eq_ok_iff.1 hcopy
  obtain ⟨_, _, hlauncher⟩ := h.launcher
  obtain ⟨-, rfl, -⟩ := hsource.unique hlauncher
  have hcopies : Copies fs r (r.described table) bytes origin content access goal :=
    ⟨h.spelling, h.hasTable.data_eq, hencode, hsource, hreadable, htarget⟩
  have hne : goal ≠ origin := by
    rintro rfl
    exact h.place ⟨goal, FileSystem.locate_of_locateForWriting htarget.locate, hsource.locate⟩
  cases hwritable : access.writable with
  | false =>
    have hcopied := htarget.fileAt_put (if goal = origin then [] else content) access
    rw [LaunchData.appendTo_of_readOnly hencode hcopied hwritable] at happend
    contradiction
  | true =>
    have hembed := hcopies.embed_of_writable hwritable
    rw [if_neg hne] at hembed
    rw [Writes, hembed]
    exact ⟨⟨_, rfl⟩, goal, access, htarget.fileAt_put (content ++ bytes) access⟩

/-- A launcher that can be read and written, with its access on the copy, and a place for an output
apart from it. -/
theorem undisturbed_of_canWrite {origin goal : Location} {access : Access}
    (htable : r.HasTable fs table) (hlauncher : fs.FileAt r.launcher origin image access)
    (hreadable : access.readable = true) (hwritable : access.writable = true)
    (hspelling : Path.components r.output ≠ Path.components r.launcher)
    (houtput : fs.CanWrite r.output goal) (hne : goal ≠ origin) :
    Undisturbed fs r table image := by
  refine ⟨htable, ⟨origin, access, hlauncher⟩, hspelling, ?_, fun data bytes _ hencode => ?_⟩
  · rintro ⟨location, hlocate, hlocate'⟩
    obtain rfl := Except.ok.inj
      (hlocate.symm.trans (FileSystem.locate_of_locateForWriting houtput.locate))
    exact hne (Except.ok.inj (hlocate'.symm.trans hlauncher.locate))
  · exact ⟨_, _, houtput.copy_eq hlauncher hreadable,
      LaunchData.appendTo_of_fileAt hencode (houtput.fileAt_put _ access) hwritable⟩

/-- Where nothing disturbs a request, the data that it describes decides what becomes of it. -/
theorem Undisturbed.refuses_or_writes {fs' : FileSystem} {r' : EmbedRequest}
    {table' : List (Text × Text)} (h : Undisturbed fs r table image)
    (h' : Undisturbed fs' r' table' image)
    (hsame : ∀ key value, Wins r.set table key value ↔ Wins r'.set table' key value) :
    (∃ cause, Refuses fs r cause ∧ Refuses fs' r' cause) ∨
      ∃ bytes, Writes fs r (image ++ bytes) ∧ Writes fs' r' (image ++ bytes) := by
  have hdata : r'.described table' = r.described table := by
    refine LaunchData.ext_get? fun key => Option.ext fun value => ?_
    rw [h'.hasTable.get?_described, h.hasTable.get?_described, hsame]
  cases hencode : (r.described table).encode with
  | error cause => exact .inl ⟨cause, h.refuses hencode, h'.refuses (hdata ▸ hencode)⟩
  | ok bytes => exact .inr ⟨bytes, h.writes_stored hencode, h'.writes_stored (hdata ▸ hencode)⟩

end Undisturbed

/-- Two requests for copies of equal launchers, in which every key has the same value, end alike:
either both are refused for the same error, or both write the same bytes. What is refused has an
entry that cannot be stored, and the error is that of the first one, in the order of the keys as
bytes. In what is written, the keys of the region are in this order and no other keys than those
with a value. -/
theorem embed_reproduced {fs : FileSystem} {r : EmbedRequest} {table : List (Text × Text)}
    (h : r.HasTable fs table) :
    (∀ fs' r' table' image, Undisturbed fs r table image → Undisturbed fs' r' table' image →
      (∀ key value, Wins r.set table key value ↔ Wins r'.set table' key value) →
      (∃ cause, Refuses fs r cause ∧ Refuses fs' r' cause) ∨
        ∃ bytes, Writes fs r (image ++ bytes) ∧ Writes fs' r' (image ++ bytes)) ∧
    (∀ cause, Refuses fs r cause → FirstEntryFault (Wins r.set table) cause) ∧
    ∀ content, Writes fs r content → ∃ front region,
      content = front ++ (region ++ littleEndian sizeBytes region.length) ∧
      (regionKeys region).Pairwise (· < ·) ∧
      ∀ bytes, bytes ∈ regionKeys region ↔
        ∃ key value, Wins r.set table key value ∧ Utf8.encode key = bytes :=
  ⟨fun _ _ _ _ hrun hrun' hsame => hrun.refuses_or_writes hrun' hsame,
    fun _ hrefuses => hrefuses.firstEntryFault h, fun _ hwrites => hwrites.exists_region h⟩

/-- The entries that the other request ends up with, in another order and without a table. -/
def reorderedRequest : EmbedRequest :=
  ⟨"launcher".toList, "Copy".toList, none, [(['d'], ['y']), (['c'], ['z', '=']), (['a'], ['1'])]⟩

/-- Two entries that cannot be stored. The one that comes last has the smaller key. -/
def refusedRequest : EmbedRequest :=
  ⟨"launcher".toList, "App".toList, none, [(['k'], ['\x00']), (['='], [])]⟩

theorem embed_reproduced_reordered :
    let table := [(['a'], ['1']), (['c'], [])]
    overridingRequest.HasTable launcherTree table ∧
    Undisturbed launcherTree overridingRequest table launcherImage ∧
    Undisturbed launcherTree reorderedRequest [] launcherImage ∧
    (∀ key value, Wins overridingRequest.set table key value ↔
      Wins reorderedRequest.set [] key value) ∧
    (∃ bytes, Writes launcherTree overridingRequest (launcherImage ++ bytes) ∧
      Writes launcherTree reorderedRequest (launcherImage ++ bytes)) ∧
    refusedRequest.HasTable launcherTree [] ∧
    Refuses launcherTree refusedRequest (.invalidKey ['=']) ∧
    FirstEntryFault (Wins refusedRequest.set []) (.invalidKey ['=']) := by
  intro table
  have htable : overridingRequest.HasTable launcherTree table := rfl
  have htable' : reorderedRequest.HasTable launcherTree [] := rfl
  have happ : launcherTree.CanWrite "App".toList ["w".toList, "App".toList] := ⟨rfl, .inl rfl⟩
  have hcopy : launcherTree.CanWrite "Copy".toList ["w".toList, "Copy".toList] := ⟨rfl, .inl rfl⟩
  have hrun : Undisturbed launcherTree overridingRequest table launcherImage :=
    undisturbed_of_canWrite htable fileAt_launcher rfl rfl (by decide) happ (by decide)
  have hrun' : Undisturbed launcherTree reorderedRequest [] launcherImage :=
    undisturbed_of_canWrite htable' fileAt_launcher rfl rfl (by decide) hcopy (by decide)
  have hdata : overridingRequest.described table = reorderedRequest.described [] := rfl
  have hsame : ∀ key value, Wins overridingRequest.set table key value ↔
      Wins reorderedRequest.set [] key value := fun key value => by
    rw [← htable.get?_described, ← htable'.get?_described, hdata]
  have hwrites := ((embed_reproduced htable).1 _ _ _ _ hrun hrun' hsame).resolve_left (by
    rintro ⟨cause, hrefuses, -⟩
    cases hrefuses.encode_eq htable)
  have hrefuses : Refuses launcherTree refusedRequest (.invalidKey ['=']) := ⟨rfl, by simp⟩
  have hnone : refusedRequest.HasTable launcherTree [] := rfl
  exact ⟨htable, hrun, hrun', hsame, hwrites, hnone, hrefuses,
    (embed_reproduced hnone).2.1 _ hrefuses⟩

end RuntimeLauncher.Tool
