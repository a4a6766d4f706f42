import RuntimeLauncher.Proofs.Launch.Resolution
import RuntimeLauncher.Proofs.Path.Extensions

/-! The names that stand for the installed runtime: the sentinel itself, and the sentinel with an
extension. -/
namespace RuntimeLauncher

/-- Text is a name with an extension, in which no `.` and no separator stands. -/
def Path.Extends (name text : Text) : Prop :=
  ∃ extension, text = name ++ '.' :: extension ∧ '.' ∉ extension ∧ Path.Bare extension

theorem RuntimeSettings.Acceptable.sentinel_ne_nil {s : RuntimeSettings} (h : s.Acceptable) :
    s.sentinelName ≠ [] := by
  intro hnil
  have hblank := h.sentinel
  rw [hnil] at hblank
  contradiction

section Sentinel
variable {configured sentinel : Text}

/-- A name without its extension is compared with the sentinel as it is. -/
theorem isSentinel_iff : isSentinel configured sentinel = true ↔
    Path.Bare configured ∧ Path.StemOf configured sentinel := by
  rw [isSentinel, Bool.and_eq_true, Path.isBareName_iff, beq_iff_eq]
  refine and_congr_right fun hbare => ?_
  rw [hbare.splits.stripExtension_eq, List.nil_append, Path.stem_eq_iff]

theorem bare_of_isSentinel (h : isSentinel configured sentinel = true) : Path.Bare sentinel := by
  obtain ⟨hbare, hstem⟩ := isSentinel_iff.1 h
  exact hbare.of_sublist hstem.isPrefix.sublist

theorem extends_of_isSentinel (h : isSentinel configured sentinel = true) :
    configured = sentinel ∨ Path.Extends sentinel configured := by
  obtain ⟨hbare, hstem⟩ := isSentinel_iff.1 h
  cases hstem with
  | whole => exact .inl rfl
  | @cut _ extension hfront hlast =>
    refine .inr ⟨extension, rfl, hlast, hbare.of_sublist ?_⟩
    exact (List.sublist_cons_self _ _).trans (List.sublist_append_right _ _)

theorem isSentinel_of_extends (hne : sentinel ≠ []) (hbare : Path.Bare sentinel)
    (h : Path.Extends sentinel configured) : isSentinel configured sentinel = true := by
  obtain ⟨extension, rfl, hlast, hextension⟩ := h
  exact isSentinel_iff.2 ⟨hbare.append (Path.bare_cons_dot_iff.2 hextension), .cut hne hlast⟩

theorem isSentinel_self (hbare : Path.Bare sentinel) (hdot : '.' ∉ sentinel.tail) :
    isSentinel sentinel sentinel = true :=
  isSentinel_iff.2 ⟨hbare, .whole hdot⟩

end Sentinel

/-- Only bare names are sentinels. A bare sentinel that is accepted stands for itself and for itself
with an extension, and for nothing else. Of a sentinel with a `.` behind its first character this
says which other text stands for it. -/
theorem isSentinel_of_validate {given runtime : RuntimeSettings} {source : Text}
    (h : given.validate source = .ok runtime) (configured : Text) :
    let sentinel := runtime.sentinelName
    (¬ Path.Bare sentinel → isSentinel configured sentinel = false) ∧
    (Path.Bare sentinel → (configured = sentinel → '.' ∉ sentinel.tail) →
      (isSentinel configured sentinel = true ↔
        configured = sentinel ∨ Path.Extends sentinel configured)) ∧
    (Path.Bare sentinel → '.' ∉ sentinel.tail → isSentinel sentinel sentinel = true) := by
  intro sentinel
  have hne : sentinel ≠ [] := (RuntimeSettings.acceptable_of_validate h).sentinel_ne_nil
  refine ⟨fun hbare => ?_, fun hbare hdot => ⟨extends_of_isSentinel, ?_⟩, isSentinel_self⟩
  · rw [← Bool.not_eq_true]
    exact fun hsentinel => hbare (bare_of_isSentinel hsentinel)
  · rintro (heq | hextends)
    · rw [heq]
      exact isSentinel_self hbare (hdot heq)
    · exact isSentinel_of_extends hne hbare hextends

/-- The sentinel `.net` stands for `.net` and `.net.exe`, but neither for `.net.core.exe` nor for
`sdk/.net`. -/
theorem isSentinel_of_validate_hidden :
    let runtime : RuntimeSettings := ⟨".net".toList, "dotnet".toList, "dll".toList⟩
    runtime.validate [] = .ok runtime ∧
    isSentinel ".net".toList runtime.sentinelName = true ∧
    isSentinel ".net.exe".toList runtime.sentinelName = true ∧
    ¬ Path.Extends runtime.sentinelName ".net.core.exe".toList ∧
    ¬ Path.Extends runtime.sentinelName "sdk/.net".toList := by
  intro runtime
  have haccepted : runtime.validate [] = .ok runtime := by decide
  have hbare : Path.Bare runtime.sentinelName := ⟨by decide, by decide⟩
  have hrule (configured : Text) (hother : configured ≠ runtime.sentinelName) :=
    (isSentinel_of_validate haccepted configured).2.1 hbare fun heq => absurd heq hother
  have hextended : Path.Extends runtime.sentinelName ".net.exe".toList :=
    ⟨"exe".toList, by decide, by decide, by decide, by decide⟩
  have hcore : isSentinel ".net.core.exe".toList runtime.sentinelName = false := by decide
  have hsdk : isSentinel "sdk/.net".toList runtime.sentinelName = false := by decide
  refine ⟨haccepted, (isSentinel_of_validate haccepted []).2.2 hbare (by decide),
    (hrule _ (by decide)).2 (.inr hextended), fun hextends => ?_, fun hextends => ?_⟩
  · rw [(hrule _ (by decide)).2 (.inr hextends)] at hcore
    contradiction
  · rw [(hrule _ (by decide)).2 (.inr hextends)] at hsdk
    contradiction

/-- A sentinel with a folder is accepted, and does not stand for itself. -/
theorem isSentinel_in_folder :
    let runtime : RuntimeSettings := ⟨"sdk/dotnet".toList, "dotnet".toList, "dll".toList⟩
    runtime.validate [] = .ok runtime ∧
    isSentinel "sdk/dotnet".toList runtime.sentinelName = false :=
  ⟨by decide, by decide⟩

end RuntimeLauncher
