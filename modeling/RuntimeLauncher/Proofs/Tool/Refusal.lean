import RuntimeLauncher.Proofs.Tool.Embedding

/-! Requests to embed launch data that fail, and what they leave behind. -/
namespace RuntimeLauncher.Tool

section Copies
variable {fs : FileSystem} {r : EmbedRequest} {data : LaunchData} {bytes : Bytes}
  {origin goal : Location} {image : Bytes} {access : Access}

/-- After the copy a request can fail in one way only: the copy may not be written. -/
theorem Copies.readOnly_of_error (h : Copies fs r data bytes origin image access goal)
    {error : Error} (herror : (embed fs r).result = .error error) :
    access.writable = false ∧ error = .launchData (.io r.output .permissionDenied) := by
  cases hwritable : access.writable with
  | true =>
    rw [h.embed_of_writable hwritable] at herror
    contradiction
  | false =>
    rw [h.embed_of_readOnly hwritable] at herror
    exact ⟨rfl, (Except.error.inj herror).symm⟩

/-- The copy without data stands where something else, or nothing, was before. -/
theorem Copies.files_of_readOnly (h : Copies fs r data bytes origin image access goal)
    (hreadOnly : access.writable = false) :
    goal ≠ origin ∧ fs.node goal ≠ some (.file image access) ∧
      (embed fs r).files = fs.put goal (some (.file image access)) := by
  -- what stood at the place of the output could be written, so it was not the launcher
  have hnode : fs.node goal ≠ some (.file image access) := by
    intro hsame
    have hwritable := h.output.writable hsame
    rw [hreadOnly] at hwritable
    contradiction
  have hne : goal ≠ origin := by
    rintro rfl
    exact hnode h.launcher.node
  refine ⟨hne, hnode, ?_⟩
  rw [h.embed_of_readOnly hreadOnly, if_neg hne]

theorem Copies.files_ne (h : Copies fs r data bytes origin image access goal)
    (hreadOnly : access.writable = false) : (embed fs r).files ≠ fs := by
  obtain ⟨-, hnode, hfiles⟩ := h.files_of_readOnly hreadOnly
  intro hsame
  have hput := FileSystem.node_put fs goal goal (some (.file image access))
  rw [← hfiles, hsame, if_pos rfl] at hput
  exact hnode hput

end Copies

section Failed
variable {fs : FileSystem} {r : EmbedRequest} {error : Error}

theorem files_embed_of_not_copies (h : ¬ ∃ data bytes origin image access goal,
    Copies fs r data bytes origin image access goal) : (embed fs r).files = fs := by
  rcases embed_refused_or_copies fs r with ⟨error, hrefused⟩ | hcopies
  · rw [hrefused]
  · exact absurd hcopies h

theorem embed_error_eq_io_iff (h : (embed fs r).result = .error error) :
    error = .launchData (.io r.output .permissionDenied) ↔
      ∃ data bytes origin image access goal, Copies fs r data bytes origin image access goal := by
  constructor
  · rintro rfl
    rcases embed_cases fs r with ⟨error', hrefused, hstoring⟩ | hcopies
    · rw [hrefused] at h
      obtain ⟨data, -, hencode⟩ := hstoring _ (Except.error.inj h)
      exact absurd hencode (data.encode_ne_io r.output .permissionDenied)
    · exact hcopies
  · rintro ⟨data, bytes, origin, image, access, goal, hcopies⟩
    exact (hcopies.readOnly_of_error h).2

/-- A request that fails leaves the files as they were, unless the error is that the output may not
be opened to add the data. This is so if nothing stands in the way of the copy. Then the launcher is
read-only, and what the output was has given way to a copy of the launcher without data. -/
theorem embed_failed (h : (embed fs r).result = .error error) :
    ((embed fs r).files = fs ↔ error ≠ .launchData (.io r.output .permissionDenied)) ∧
    (error = .launchData (.io r.output .permissionDenied) ↔
      ∃ data bytes origin image access goal, Copies fs r data bytes origin image access goal) ∧
    ∀ data bytes origin image access goal, Copies fs r data bytes origin image access goal →
      access.writable = false ∧ goal ≠ origin ∧ fs.node goal ≠ some (.file image access) ∧
        (embed fs r).files = fs.put goal (some (.file image access)) := by
  have hio := embed_error_eq_io_iff h
  refine ⟨⟨fun hsame herror => ?_, fun herror => ?_⟩, hio, ?_⟩
  · obtain ⟨data, bytes, origin, image, access, goal, hcopies⟩ := hio.1 herror
    exact hcopies.files_ne (hcopies.readOnly_of_error h).1 hsame
  · exact files_embed_of_not_copies (mt hio.2 herror)
  · intro data bytes origin image access goal hcopies
    have hreadOnly := (hcopies.readOnly_of_error h).1
    exact ⟨hreadOnly, hcopies.files_of_readOnly hreadOnly⟩

end Failed

def readOnly : Access := ⟨true, false, false⟩

/-- A launcher that its owner may not write, and a file that may be written. -/
def readOnlyTree : FileSystem :=
  let tree := (FileSystem.empty "/w".toList).place "launcher".toList (.file launcherImage readOnly)
  tree.place "old".toList (.file [0x6F] {})

theorem copies_readOnlyTree {output : Path} {goal : Location}
    (hspelling : Path.components output ≠ Path.components "launcher".toList)
    (houtput : readOnlyTree.CanWrite output goal) :
    Copies readOnlyTree (requestTo output) (LaunchData.ofList [(['k'], ['v'])]) storedEntry
      launcherLocation launcherImage readOnly goal :=
  ⟨hspelling, rfl, rfl, ⟨rfl, rfl⟩, rfl, houtput⟩

/-- A file that was to take the copy is lost; nothing is when the launcher was to take it. -/
theorem embed_failed_readOnly :
    (embed readOnlyTree (requestTo "old".toList)).result =
      .error (.launchData (.io "old".toList .permissionDenied)) ∧
    (embed readOnlyTree (requestTo "old".toList)).files =
      readOnlyTree.put ["w".toList, "old".toList] (some (.file launcherImage readOnly)) ∧
    (embed readOnlyTree (requestTo "launcher".toList)).result =
      .error (.outputIsLauncher "launcher".toList) ∧
    (embed readOnlyTree (requestTo "launcher".toList)).files = readOnlyTree := by
  have hold : readOnlyTree.CanWrite "old".toList ["w".toList, "old".toList] :=
    ⟨rfl, .inr ⟨[0x6F], {}, rfl, rfl⟩⟩
  have hcopies := copies_readOnlyTree (by decide) hold
  have hfailed := congrArg Outcome.result (hcopies.embed_of_readOnly rfl)
  obtain ⟨-, -, -, hfiles⟩ := (embed_failed hfailed).2.2 _ _ _ _ _ _ hcopies
  have hself : (embed readOnlyTree (requestTo "launcher".toList)).result =
      .error (.outputIsLauncher "launcher".toList) := rfl
  exact ⟨hfailed, hfiles, hself, (embed_failed hself).1.2 (by simp)⟩

/-- A request that fails, and after it an output that was not there. -/
theorem embed_readOnly_launcher :
    (embed readOnlyTree (requestTo "App".toList)).result =
      .error (.launchData (.io "App".toList .permissionDenied)) ∧
    readOnlyTree.node ["w".toList, "App".toList] = none ∧
    (embed readOnlyTree (requestTo "App".toList)).files.node ["w".toList, "App".toList] =
      some (.file launcherImage readOnly) := by
  have hnew : readOnlyTree.CanWrite "App".toList ["w".toList, "App".toList] := ⟨rfl, .inl rfl⟩
  have hcopies := copies_readOnlyTree (by decide) hnew
  have hfailed := congrArg Outcome.result (hcopies.embed_of_readOnly rfl)
  have hput := FileSystem.node_put readOnlyTree ["w".toList, "App".toList]
    ["w".toList, "App".toList] (some (.file launcherImage readOnly))
  rw [if_pos rfl, ← (hcopies.files_of_readOnly rfl).2.2] at hput
  exact ⟨hfailed, rfl, hput⟩

end RuntimeLauncher.Tool
