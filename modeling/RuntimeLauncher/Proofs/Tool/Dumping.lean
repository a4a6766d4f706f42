import RuntimeLauncher.Proofs.LaunchData.Insertion
import RuntimeLauncher.Proofs.Toml.Documents
import RuntimeLauncher.Proofs.Tool.Embedding

/-! Showing launch data as TOML and embedding it again: what is shown leads to the same data. -/
namespace RuntimeLauncher.Tool

/-- A table that is shown is read back, with or without a line break behind it. -/
theorem strings?_shown (data : LaunchData) {ending : Text} (h : ending = [] ∨ ending = ['\n']) :
    (Toml.parse (Text.trimEnd (render data .toml) ++ ending)).bind Toml.Table.strings? =
      some data.entries := by
  unfold render
  rcases h with rfl | rfl
  · rw [List.append_nil]
    exact Toml.strings?_of_lines (Toml.lines_trimEnd_write data.entries) data.nodup_keys
  · by_cases hempty : data.entries = []
    · rw [hempty]
      rfl
    · obtain ⟨front, c, hwritten, hc, -⟩ := Toml.exists_write_eq_append hempty
      have hlines := Toml.lines_write data.entries
      rw [hwritten] at hlines
      rw [hwritten, Toml.trimEnd_append hc]
      exact Toml.strings?_of_lines hlines data.nodup_keys

theorem dump_toml {fs : FileSystem} {binary : Path} {data : LaunchData}
    (h : LaunchData.ofBinary fs binary = .ok data) :
    (dump fs ⟨binary, .toml⟩).result = .ok (Text.trimEnd (render data .toml)) := by
  unfold dump
  rw [h]

theorem readEntries_shown {files : FileSystem} {file : Path} {place : Location} {data : LaunchData}
    {ending : Text} {access : Access} (hending : ending = [] ∨ ending = ['\n'])
    (hfile : files.FileAt file place
      (Utf8.encode (Text.trimEnd (render data .toml) ++ ending)) access)
    (hreadable : access.readable = true) : readEntries files file = .ok data.entries := by
  unfold readEntries
  rw [hfile.readText_eq hreadable]
  dsimp only
  rw [strings?_shown data hending]

/-- What is shown of a binary with launch data is, as a file of entries, the table of this data. A
launcher is copied with exactly the stored form of the data behind it. -/
theorem embed_dumped {fs : FileSystem} {binary : Path} {data : LaunchData} {bytes : Bytes}
    (hdata : LaunchData.ofBinary fs binary = .ok data) (hstored : data.encode = .ok bytes) :
    ∃ text, (dump fs ⟨binary, .toml⟩).result = .ok text ∧
      ∀ (files : FileSystem) (r : EmbedRequest) (file : Path) (place : Location) (ending : Text)
        (access : Access), r.entries = some file → r.set = [] → ending = [] ∨ ending = ['\n'] →
        files.FileAt file place (Utf8.encode (text ++ ending)) access → access.readable = true →
        readEntries files file = .ok data.entries ∧
          ∀ origin image access' goal, Path.components r.output ≠ Path.components r.launcher →
            files.FileAt r.launcher origin image access' → access'.readable = true →
            access'.writable = true → files.CanWrite r.output goal → goal ≠ origin →
              (embed files r).result = .ok (r.confirmation data) ∧
                (embed files r).files.FileAt r.output goal (image ++ bytes) access' := by
  refine ⟨_, dump_toml hdata, ?_⟩
  intro files r file place ending access hentries hset hending hfile hreadable
  have hread := readEntries_shown hending hfile hreadable
  refine ⟨hread, ?_⟩
  intro origin image access' goal hspelling hlauncher hreadable' hwritable houtput hne
  have htable : r.HasTable files data.entries := by
    unfold EmbedRequest.HasTable
    rw [hentries]
    exact hread
  have hdescribed : r.data files = .ok data := by
    rw [data_eq_ok_iff]
    refine ⟨data.entries, htable, ?_⟩
    rw [hset, LaunchData.ofList_entries, LaunchData.insertMany_nil]
  have hcopies : Copies files r data bytes origin image access' goal :=
    ⟨hspelling, hdescribed, hstored, hlauncher, hreadable', houtput⟩
  have hembed := hcopies.embed_of_writable hwritable
  rw [if_neg hne] at hembed
  rw [hembed]
  exact ⟨rfl, houtput.fileAt_put (image ++ bytes) access'⟩

/-- Values with quotes of both kinds, a backslash, line breaks and a control character. -/
def quotedData : LaunchData :=
  LaunchData.ofList [("a b".toList, "\n\"\"\"it's\"\"\"\n".toList), (['k'], "\\\"'\x01'".toList)]

def quotedBytes : Bytes := quotedData.encode.toOption.getD []

def quotedText : Text :=
  "\"a b\" = '''\n\n\"\"\"it's\"\"\"\n'''\nk = \"\\\\\\\"'\\u0001'\"".toList

/-- A binary with this data, and a file with what is shown of it. -/
def quotedTree : FileSystem :=
  let tree := launcherTree.place "binary".toList (.file quotedBytes {})
  tree.place "shown".toList (.file (Utf8.encode quotedText) {})

def quotedRequest : EmbedRequest :=
  ⟨"launcher".toList, "App".toList, some "shown".toList, []⟩

theorem embed_dumped_quotes :
    LaunchData.ofBinary quotedTree "binary".toList = .ok quotedData ∧
    quotedData.encode = .ok quotedBytes ∧
    (dump quotedTree ⟨"binary".toList, .toml⟩).result = .ok quotedText ∧
    readEntries quotedTree "shown".toList = .ok quotedData.entries ∧
    (embed quotedTree quotedRequest).files.FileAt "App".toList ["w".toList, "App".toList]
      (launcherImage ++ quotedBytes) {} := by
  have hdata : LaunchData.ofBinary quotedTree "binary".toList = .ok quotedData := rfl
  have hstored : quotedData.encode = .ok quotedBytes := rfl
  have hshown : (dump quotedTree ⟨"binary".toList, .toml⟩).result = .ok quotedText := rfl
  obtain ⟨text, hdump, hembed⟩ := embed_dumped hdata hstored
  obtain rfl := Except.ok.inj (hshown.symm.trans hdump)
  have hfile : quotedTree.FileAt "shown".toList ["w".toList, "shown".toList]
      (Utf8.encode (quotedText ++ [])) {} := ⟨rfl, rfl⟩
  have hlauncher : quotedTree.FileAt "launcher".toList launcherLocation launcherImage {} := ⟨rfl, rfl⟩
  have houtput : quotedTree.CanWrite "App".toList ["w".toList, "App".toList] := ⟨rfl, .inl rfl⟩
  obtain ⟨hread, hcopied⟩ :=
    hembed quotedTree quotedRequest _ _ [] _ rfl rfl (.inl rfl) hfile rfl
  have hcopy := hcopied _ _ _ _ (by decide) hlauncher rfl rfl houtput (by decide)
  exact ⟨hdata, hstored, hshown, hread, hcopy.2⟩

end RuntimeLauncher.Tool
