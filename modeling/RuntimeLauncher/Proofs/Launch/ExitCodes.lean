import RuntimeLauncher.Program
import RuntimeLauncher.Proofs.Launch.Running
import RuntimeLauncher.Proofs.Machine.Endings
import RuntimeLauncher.Proofs.Machine.Lookup

/-! The exit code of a launcher: the one that the wait status of its child makes, and a failure where
no child was started. -/
namespace RuntimeLauncher

theorem Machine.start_eq_ok_iff {env : Variables} {command : Command} {m after : Machine}
    {code : Int} : Machine.start env command m = (.ok code, after) ↔
      ∃ status, m.spawn env command = .ok (status, after) ∧ code = status.exitCode := by
  unfold start
  cases m.spawn env command with
  | error failure => simp
  | ok ended =>
    obtain ⟨status, after'⟩ := ended
    simp only [Prod.mk.injEq, Except.ok.injEq]
    constructor
    · rintro ⟨rfl, rfl⟩
      exact ⟨status, ⟨rfl, rfl⟩, rfl⟩
    · rintro ⟨_, ⟨rfl, rfl⟩, rfl⟩
      exact ⟨rfl, rfl⟩

namespace Program

/-- The run of a launcher with these settings on a machine. -/
def launched (exe : Path) (env : List (Text × Text)) (args : List Text) (m : Machine)
    (settings : Settings) : Run Machine :=
  let own := Variables.ofList env
  run m.files exe exe settings.runtime (Host.system m.files own) (Machine.start own) args m

/-- The launcher starts what it plans, and its child ends with this status. -/
def WaitsFor (exe : Path) (env : List (Text × Text)) (args : List Text) (m : Machine)
    (status : WaitStatus) : Prop :=
  ∃ settings plan after, Settings.ofEnvironment m.files env = .ok settings ∧
    PlansTo m.files exe exe settings.runtime (Host.system m.files (Variables.ofList env)) args
      (.ok plan) ∧
    m.spawn (Variables.ofList env) plan.command = .ok (status, after)

section Launcher
variable {exe : Path} {env : List (Text × Text)} {args : List Text} {m : Machine}
  {settings : Settings} {status : WaitStatus}

/-- A run comes to an exit code exactly if there was a child to wait for. -/
theorem outcome_launched_eq_ok_iff (h : Settings.ofEnvironment m.files env = .ok settings)
    {code : Int} : (launched exe env args m settings).outcome = .ok code ↔
      ∃ status, WaitsFor exe env args m status ∧ code = status.exitCode := by
  constructor
  · intro houtcome
    obtain ⟨commands, outcome, after, hends⟩ := exists_ends m.files exe exe settings.runtime
      (Host.system m.files (Variables.ofList env)) (Machine.start (Variables.ofList env)) args m
    have hsame : (launched exe env args m settings).outcome = outcome :=
      congrArg (·.2.1) hends.effect_eq
    rw [hsame] at houtcome
    cases hends with
    | exited hplan hstart =>
      obtain rfl := Except.ok.inj houtcome
      obtain ⟨status, hspawn, hcode⟩ := Machine.start_eq_ok_iff.1 hstart
      exact ⟨status, ⟨settings, _, after, h, hplan, hspawn⟩, hcode⟩
    | _ => contradiction
  · rintro ⟨status, ⟨settings', plan, after, hsettings, hplan, hspawn⟩, rfl⟩
    obtain rfl := Except.ok.inj (hsettings.symm.trans h)
    have hstart := Machine.start_eq_ok_iff.2 ⟨status, hspawn, rfl⟩
    exact congrArg (·.2.1) (Ends.exited hplan hstart).effect_eq

theorem code_launcher_of_settings (h : Settings.ofEnvironment m.files env = .ok settings) :
    (launcher exe env args m).1.code =
      match (launched exe env args m settings).outcome with
      | .error _ => 1
      | .ok code => forwardedCode code := by
  unfold launcher withSettings launched
  simp only [h]
  generalize run m.files exe exe settings.runtime (Host.system m.files (Variables.ofList env))
    (Machine.start (Variables.ofList env)) args m = ran
  cases ran.outcome with
  | error error => rfl
  | ok code => rfl

theorem code_launcher (h : WaitsFor exe env args m status) :
    (launcher exe env args m).1.code = status.exitCode := by
  have ⟨settings, _, _, hsettings, _⟩ := h
  have houtcome := (outcome_launched_eq_ok_iff hsettings).2 ⟨status, h, rfl⟩
  rw [code_launcher_of_settings hsettings, houtcome]
  exact status.forwardedCode_exitCode

theorem code_launcher_of_no_child (h : ∀ status, ¬ WaitsFor exe env args m status) :
    (launcher exe env args m).1.code = 1 := by
  cases hsettings : Settings.ofEnvironment m.files env with
  | error error =>
    unfold launcher withSettings
    rw [hsettings]
  | ok settings =>
    rw [code_launcher_of_settings hsettings]
    cases houtcome : (launched exe env args m settings).outcome with
    | error error => rfl
    | ok code =>
      obtain ⟨status, hstatus, -⟩ := (outcome_launched_eq_ok_iff hsettings).1 houtcome
      exact absurd hstatus (h status)

end Launcher

/-- Every status makes a code that fits in a byte and is forwarded as it is: the code of a child that
came to its end by itself, 128 and the signal for one that a signal ended, whether its memory was
saved or not, and a failure for one that did not end. It is zero for an end with code zero only. A
launcher therefore exits with the code that its child makes, and with zero exactly if there was a
child that ended so. -/
theorem launcher_exits (exe : Path) (env : List (Text × Text)) (args : List Text) (m : Machine) :
    (∀ s : WaitStatus,
      s.exitCode ≤ 255 ∧ forwardedCode s.exitCode = s.exitCode ∧
      (forwardedCode s.exitCode = 0 ↔ s.Exited 0) ∧
      (∀ code, s.Exited code → forwardedCode s.exitCode = code) ∧
      (∀ signal, s.Killed signal → forwardedCode s.exitCode = 128 + signal ∧
        forwardedCode s.flipCore.exitCode = 128 + signal) ∧
      ((∀ code, ¬ s.Exited code) → (∀ signal, ¬ s.Killed signal) →
        forwardedCode s.exitCode = 1)) ∧
    (∀ settings code, Settings.ofEnvironment m.files env = .ok settings →
      (launched exe env args m settings).outcome = .ok code → 0 ≤ code ∧ code ≤ 255) ∧
    (∀ status, WaitsFor exe env args m status →
      (launcher exe env args m).1.code = status.exitCode) ∧
    ((launcher exe env args m).1.code = 0 ↔
      ∃ status, WaitsFor exe env args m status ∧ status.Exited 0) := by
  refine ⟨fun s => ?_, ?_, fun status => code_launcher, ?_⟩
  · rw [s.forwardedCode_exitCode]
    refine ⟨s.exitCode_le, rfl, WaitStatus.exitCode_eq_zero_iff, fun _ h => h.exitCode_eq, ?_,
      WaitStatus.exitCode_of_not_ended⟩
    intro signal h
    rw [s.flipCore.forwardedCode_exitCode]
    exact ⟨h.exitCode_eq, h.flipCore.exitCode_eq⟩
  · intro settings code hsettings houtcome
    obtain ⟨status, -, rfl⟩ := (outcome_launched_eq_ok_iff hsettings).1 houtcome
    have hle := status.exitCode_le
    omega
  · constructor
    · intro hzero
      by_cases hchild : ∃ status, WaitsFor exe env args m status
      · obtain ⟨status, hstatus⟩ := hchild
        rw [code_launcher hstatus] at hzero
        exact ⟨status, hstatus, WaitStatus.exitCode_eq_zero_iff.1 hzero⟩
      · rw [code_launcher_of_no_child (not_exists.1 hchild)] at hzero
        contradiction
    · rintro ⟨status, hstatus, hended⟩
      rw [code_launcher hstatus]
      exact hended.exitCode_eq

/-- A launcher whose runtime on the search path is the shell, which finds no artifact to run. -/
def shellMachine : Machine :=
  let files := twinTree.place "/bin/sh".toList (.file [] ⟨true, true, true⟩)
  ⟨files.place "/bin/dotnet".toList (.link "sh".toList), []⟩

def shellVariables : List (Text × Text) := [(Machine.pathVariable, "/bin".toList)]

theorem spawn_shell : shellMachine.spawn (Variables.ofList shellVariables) twinCommand =
    .ok (.ofCode 2, shellMachine) := by
  have hne : twinCommand.program ≠ [] := by decide
  have hwords : ∀ word ∈ twinCommand.words, '\x00' ∉ word := by decide
  have hsearch : Machine.searchPath
      (twinCommand.environment.onto (Variables.ofList shellVariables)) = ["/bin".toList] := by decide
  rw [Machine.spawn_of_words hwords hne, if_neg (by decide), hsearch]
  apply Machine.executeBare_of_started
  have hfile : shellMachine.files.FileAt "/bin/dotnet".toList ["bin".toList, "sh".toList] []
      ⟨true, true, true⟩ := ⟨rfl, rfl⟩
  have hshell : (Machine.shells.any fun shell => (shellMachine.files.locate shell).toOption ==
      some ["bin".toList, "sh".toList]) = true := by decide
  have hread : shellMachine.files.readText "/w/first.dll".toList = .error .notFound := rfl
  have hargv : twinCommand.argv = ["/w/first.dll".toList, ['x']] := rfl
  refine (Machine.execute_of_fileAt hfile 4 twinCommand.argv).trans ?_
  rw [Machine.executeFile, if_neg (by decide), if_pos hshell, hargv, Machine.runShell, hread]
  simp

/-- A crash with the memory saved, an end with code three in a word below zero, and a launcher whose
child ends with code two. -/
theorem launcher_exits_crashed :
    let crash : WaitStatus := ⟨0x8B⟩
    let negative : WaitStatus := ⟨0xFFFF0300⟩
    crash.Killed 11 ∧ forwardedCode crash.exitCode = 139 ∧
    forwardedCode crash.flipCore.exitCode = 139 ∧
    negative.word < 0 ∧ negative.Exited 3 ∧ forwardedCode negative.exitCode = 3 ∧
    WaitsFor "/w/first".toList shellVariables twinWords shellMachine (.ofCode 2) ∧
    (launcher "/w/first".toList shellVariables twinWords shellMachine).1.code = 2 := by
  intro crash negative
  have hcrash : crash.Killed 11 := ⟨by decide, by decide⟩
  have hnegative : negative.Exited 3 := ⟨by decide, by decide⟩
  have hplan : PlansTo shellMachine.files "/w/first".toList "/w/first".toList .standard
      (Host.system shellMachine.files (Variables.ofList shellVariables)) twinWords
      (.ok ⟨.dotnet, ⟨"dotnet".toList, true⟩, twinCommand⟩) :=
    ⟨twinData, "./first".toList, [['x']], "/w/first".toList, rfl, rfl, by decide, rfl, rfl⟩
  have hsettings : Settings.ofEnvironment shellMachine.files shellVariables =
      .ok ⟨false, none, .standard, none⟩ := rfl
  have hwaits : WaitsFor "/w/first".toList shellVariables twinWords shellMachine (.ofCode 2) :=
    ⟨_, _, _, hsettings, hplan, spawn_shell⟩
  obtain ⟨hcodes, -, hlauncher, -⟩ :=
    launcher_exits "/w/first".toList shellVariables twinWords shellMachine
  obtain ⟨-, -, -, -, hkilled, -⟩ := hcodes crash
  obtain ⟨-, -, -, hexited, -⟩ := hcodes negative
  exact ⟨hcrash, (hkilled 11 hcrash).1, (hkilled 11 hcrash).2, by decide, hnegative,
    hexited 3 hnegative, hwaits, hlauncher _ hwaits⟩

end Program

end RuntimeLauncher
