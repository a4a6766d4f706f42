import RuntimeLauncher.Proofs.Machine.Lookup
import RuntimeLauncher.Proofs.Runfiles.Locations
import RuntimeLauncher.Proofs.Settings.Loading

/-! The file that a resolved runtime is. It was there when it was looked for, and it is what is
started, unless its path is a bare name. -/
namespace RuntimeLauncher

namespace Path

theorem join_nil_left (p : Path) : join [] p = p := by
  rw [join]
  split_ifs
  · rfl
  · rfl
  · contradiction

/-- A join has a slash unless nothing is joined. -/
theorem slash_not_mem_join_iff {base p : Path} : '/' ∉ join base p ↔ base = [] ∧ '/' ∉ p := by
  by_cases hbase : base = []
  · rw [hbase, join_nil_left, and_iff_right rfl]
  refine iff_of_false (not_not.2 ?_) fun h => hbase h.1
  rw [join]
  split_ifs with habsolute hend
  · exact slash_mem_of_isAbsolute habsolute
  · have hlast : base.getLast? = some '/' := by simpa [hbase] using hend
    exact List.mem_append_left _ (List.mem_of_getLast? hlast)
  · exact List.mem_append_right _ List.mem_cons_self

end Path

theorem RuntimeSettings.acceptable_of_validate {source : Text} {s s' : RuntimeSettings}
    (h : s.validate source = .ok s') : s'.Acceptable := by
  rcases firstFault_or_acceptable source s with ⟨error, hfault⟩ | hacceptable
  · rw [validate_of_firstFault hfault] at h
    contradiction
  · rw [validate_of_acceptable hacceptable] at h
    exact Except.ok.inj h ▸ hacceptable

theorem RuntimeSettings.Acceptable.fallback_ne_nil {s : RuntimeSettings} (h : s.Acceptable) :
    s.fallbackBinary ≠ [] := by
  intro hnil
  have hblank := h.fallback
  rw [hnil] at hblank
  contradiction

/-- The ways to a candidate without a slash: the sentinel, which is not looked up among the runfiles,
a path that is absolute for Windows only, a runfile of the empty directory, and a target that a
manifest gives so. -/
inductive BareCandidate (runtime : RuntimeSettings) (runfiles : Runfiles) (configured : Text) :
    Path → Prop
  | sentinel (h : isSentinel configured runtime.sentinelName = true) :
    BareCandidate runtime runfiles configured configured
  | windows (h : Path.isWindowsAbsolute configured = true) (hslash : '/' ∉ configured) :
    BareCandidate runtime runfiles configured configured
  | directory {name : Path} (hsentinel : isSentinel configured runtime.sentinelName = false)
    (hrelative : Path.isAbsolute configured = false)
    (hwindows : Path.isWindowsAbsolute configured = false)
    (hstrategy : runfiles = .ofDirectory [])
    (hname : Runfiles.LogicalName configured name) (hslash : '/' ∉ name) :
    BareCandidate runtime runfiles configured name
  | manifest {file name target : Path} {entries : Manifest}
    (hsentinel : isSentinel configured runtime.sentinelName = false)
    (hrelative : Path.isAbsolute configured = false)
    (hwindows : Path.isWindowsAbsolute configured = false)
    (hstrategy : runfiles.strategy = .manifest file entries)
    (hname : Runfiles.LogicalName configured name) (htarget : entries.find? name = some target)
    (hslash : '/' ∉ target) : BareCandidate runtime runfiles configured target

section Candidates
variable {runtime : RuntimeSettings} {runfiles : Runfiles} {configured : Text} {path : Path}

theorem Path.not_isBareName_of_isWindowsAbsolute {p : Path} (h : isWindowsAbsolute p = true) :
    isBareName p = false := by
  have hseparator : ∃ c ∈ p, isSeparator c = true := by
    unfold isWindowsAbsolute at h
    split at h
    · exact ⟨'\\', List.mem_cons_self, rfl⟩
    · next drive separator rest =>
      rw [Bool.and_eq_true] at h
      exact ⟨separator, by simp, h.2⟩
    · contradiction
  rw [isBareName, List.any_eq_true.2 hseparator, Bool.not_true]

theorem isBareName_of_isSentinel {sentinel : Text} (h : isSentinel configured sentinel = true) :
    Path.isBareName configured = true := by
  rw [isSentinel, Bool.and_eq_true] at h
  exact h.1

theorem candidate?_of_sentinel (h : isSentinel configured runtime.sentinelName = true) :
    candidate? runtime runfiles configured = some configured := if_pos h

theorem candidate?_of_not_sentinel (h : isSentinel configured runtime.sentinelName = false) :
    candidate? runtime runfiles configured = runfiles.location? configured := by
  rw [candidate?, h, if_neg (by decide)]

theorem bareCandidate_of_location (hsentinel : isSentinel configured runtime.sentinelName = false)
    (hlocation : runfiles.location? configured = some path) (hslash : '/' ∉ path) :
    BareCandidate runtime runfiles configured path := by
  cases hwindows : Path.isWindowsAbsolute configured with
  | true =>
    rw [Runfiles.location?, hwindows, Bool.or_true, if_pos rfl, Option.some.injEq] at hlocation
    subst hlocation
    exact .windows hwindows hslash
  | false =>
    have hrelative : Path.isAbsolute configured = false := by
      by_contra habsolute
      rw [Bool.not_eq_false] at habsolute
      rw [Runfiles.location?, habsolute, Bool.true_or, if_pos rfl, Option.some.injEq] at hlocation
      exact hslash (hlocation ▸ Path.slash_mem_of_isAbsolute habsolute)
    obtain ⟨directory, strategy⟩ := runfiles
    cases strategy with
    | directory =>
      have hjoin := Runfiles.location?_ofDirectory hrelative hwindows directory
      obtain rfl := Option.some.inj (hjoin.symm.trans hlocation)
      obtain ⟨rfl, hname⟩ := Path.slash_not_mem_join_iff.1 hslash
      rw [Path.join_nil_left]
      exact .directory hsentinel hrelative hwindows rfl (Runfiles.logicalPath_eq_iff.1 rfl) hname
    | manifest file entries =>
      simp only [Runfiles.location?, hrelative, hwindows, Bool.or_self, Bool.false_eq_true,
        if_false] at hlocation
      exact .manifest hsentinel hrelative hwindows rfl (Runfiles.logicalPath_eq_iff.1 rfl)
        hlocation hslash

theorem bareCandidate_iff : BareCandidate runtime runfiles configured path ↔
    candidate? runtime runfiles configured = some path ∧ '/' ∉ path := by
  constructor
  · intro h
    cases h with
    | sentinel h =>
      have hbare := isBareName_of_isSentinel h
      refine ⟨candidate?_of_sentinel h, fun hslash => ?_⟩
      rw [Path.isBareName, List.any_eq_true.2 ⟨'/', hslash, rfl⟩] at hbare
      contradiction
    | windows h hslash =>
      have hsentinel : isSentinel configured runtime.sentinelName = false := by
        rw [isSentinel, Path.not_isBareName_of_isWindowsAbsolute h, Bool.false_and]
      refine ⟨?_, hslash⟩
      rw [candidate?_of_not_sentinel hsentinel, Runfiles.location?, h, Bool.or_true, if_pos rfl]
    | directory hsentinel hrelative hwindows hstrategy hname hslash =>
      refine ⟨?_, hslash⟩
      rw [candidate?_of_not_sentinel hsentinel, hstrategy,
        Runfiles.location?_ofDirectory hrelative hwindows, Runfiles.logicalPath_eq_iff.2 hname,
        Path.join_nil_left]
    | manifest hsentinel hrelative hwindows hstrategy hname htarget hslash =>
      refine ⟨?_, hslash⟩
      rw [candidate?_of_not_sentinel hsentinel, ← htarget, ← Runfiles.logicalPath_eq_iff.2 hname]
      simp [Runfiles.location?, hrelative, hwindows, hstrategy]
  · rintro ⟨hcandidate, hslash⟩
    cases hsentinel : isSentinel configured runtime.sentinelName with
    | true =>
      rw [candidate?_of_sentinel hsentinel] at hcandidate
      exact Option.some.inj hcandidate ▸ .sentinel hsentinel
    | false =>
      rw [candidate?_of_not_sentinel hsentinel] at hcandidate
      exact bareCandidate_of_location hsentinel hcandidate hslash

theorem resolveBinary_of_usedFallback {host : Host}
    (h : (resolveBinary host runtime runfiles configured).usedFallback = true) :
    (resolveBinary host runtime runfiles configured).path = runtime.fallbackBinary := by
  unfold resolveBinary at h ⊢
  split at h
  · contradiction
  · rfl

theorem resolveBinary_of_found {host : Host}
    (h : (resolveBinary host runtime runfiles configured).usedFallback = false) :
    candidate? runtime runfiles configured =
        some (resolveBinary host runtime runfiles configured).path ∧
      host.fileExists (resolveBinary host runtime runfiles configured).path = true := by
  rw [← Option.filter_eq_some_iff]
  unfold resolveBinary at h ⊢
  split at h
  · assumption
  · contradiction

end Candidates

/-- A runtime that is found was a file when it was looked for. If its path has a slash, it is this very
file that is started. The candidates without a slash are named, and with them it is as with a
fallback that is written so: what is started is looked up on the search path. -/
theorem resolveBinary_started {given runtime : RuntimeSettings} {source : Text}
    (hruntime : given.validate source = .ok runtime) (m : Machine) (env : Variables)
    (runfiles : Runfiles) (configured : Text) :
    let binary := resolveBinary (Host.system m.files env) runtime runfiles configured
    (binary.usedFallback = false →
      m.files.isFile binary.path = true ∧
      ('/' ∈ binary.path → m.RunsFile binary.path) ∧
      ('/' ∉ binary.path ↔ BareCandidate runtime runfiles configured binary.path)) ∧
    (binary.usedFallback = true → binary.path = runtime.fallbackBinary) ∧
    ('/' ∉ binary.path → m.Searches binary.path) := by
  intro binary
  have hfound (hused : binary.usedFallback = false) :
      candidate? runtime runfiles configured = some binary.path ∧
        m.files.isFile binary.path = true := resolveBinary_of_found hused
  refine ⟨fun hused => ?_, resolveBinary_of_usedFallback, fun hbare => ?_⟩
  · obtain ⟨hcandidate, hfile⟩ := hfound hused
    obtain ⟨location, content, access, hat⟩ := FileSystem.exists_fileAt_of_isFile hfile
    refine ⟨hfile, Machine.runsFile_of_fileAt hat, ?_⟩
    rw [bareCandidate_iff, and_iff_right hcandidate]
  · refine Machine.searches_of_bare ?_ hbare
    cases hused : binary.usedFallback with
    | true =>
      rw [resolveBinary_of_usedFallback hused]
      exact (RuntimeSettings.acceptable_of_validate hruntime).fallback_ne_nil
    | false =>
      obtain ⟨location, content, access, hat⟩ :=
        FileSystem.exists_fileAt_of_isFile (hfound hused).2
      exact hat.ne_nil

/-- A machine with a text named `dotnet` in the working directory, and a program of that name on the
search path. -/
def strayMachine : Machine :=
  let files := (FileSystem.empty "/w".toList).place "dotnet".toList (.file [] {})
  let files := files.place "/bin/sh".toList (.file [] ⟨true, true, true⟩)
  ⟨files.place "/bin/dotnet".toList (.link "sh".toList), []⟩

def strayVariables : Variables := .ofList [(Machine.pathVariable, "/bin".toList)]

def strayCommand : Command := ⟨"dotnet".toList, [], ⟨[]⟩⟩

theorem spawn_stray :
    strayMachine.spawn strayVariables strayCommand = .ok (.ofCode 0, strayMachine) := by
  have hne : strayCommand.program ≠ [] := by decide
  have hwords : ∀ word ∈ strayCommand.words, '\x00' ∉ word := by decide
  have hsearch : Machine.searchPath (strayCommand.environment.onto strayVariables) =
      ["/bin".toList] := by decide
  have hexecute : strayMachine.execute (strayCommand.environment.onto strayVariables)
      Machine.maxInterpreters (Machine.inDirectory "/bin".toList "dotnet".toList) [] =
        .ok (.ofCode 0, strayMachine) := rfl
  rw [Machine.spawn_of_words hwords hne, if_neg (by decide), hsearch]
  exact Machine.executeBare_of_started hexecute

/-- The text is found as the runtime, and the program is started. -/
theorem resolveBinary_stray :
    RuntimeSettings.standard.validate [] = .ok .standard ∧
    resolveBinary (Host.system strayMachine.files strayVariables) .standard
      (.ofDirectory "/r".toList) "dotnet".toList = ⟨"dotnet".toList, false⟩ ∧
    '/' ∉ "dotnet".toList ∧ ¬ strayMachine.RunsFile "dotnet".toList := by
  refine ⟨rfl, rfl, by decide, ?_⟩
  rintro ⟨location, content, access, hfile, hruns⟩
  have htext : strayMachine.files.FileAt "dotnet".toList ["w".toList, "dotnet".toList] [] {} :=
    ⟨rfl, rfl⟩
  obtain ⟨rfl, rfl, rfl⟩ := htext.unique hfile
  have hstarted := hruns strayVariables strayCommand rfl (by decide)
  rw [spawn_stray, Machine.executeFile, if_pos (by decide)] at hstarted
  contradiction

/-- An absolute runtime is started as it is, and the sentinel is looked up. -/
theorem resolveBinary_started_stray :
    RuntimeSettings.standard.validate [] = .ok .standard ∧
    strayMachine.RunsFile "/bin/sh".toList ∧
    BareCandidate .standard (.ofDirectory "/r".toList) "dotnet".toList "dotnet".toList ∧
    strayMachine.Searches "dotnet".toList := by
  have hsettings : RuntimeSettings.standard.validate [] = .ok .standard := rfl
  have hrule (configured : Text) := resolveBinary_started hsettings strayMachine strayVariables
    (.ofDirectory "/r".toList) configured
  have hshell : resolveBinary (Host.system strayMachine.files strayVariables) .standard
      (.ofDirectory "/r".toList) "/bin/sh".toList = ⟨"/bin/sh".toList, false⟩ := rfl
  have hsentinel : resolveBinary (Host.system strayMachine.files strayVariables) .standard
      (.ofDirectory "/r".toList) "dotnet".toList = ⟨"dotnet".toList, false⟩ := rfl
  have habsolute := hrule "/bin/sh".toList
  have hbare := hrule "dotnet".toList
  rw [hshell] at habsolute
  rw [hsentinel] at hbare
  obtain ⟨hfound, -, hsearched⟩ := hbare
  exact ⟨hsettings, (habsolute.1 rfl).2.1 (by decide), (hfound rfl).2.2.1 (by decide),
    hsearched (by decide)⟩

end RuntimeLauncher
