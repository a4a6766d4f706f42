import RuntimeLauncher.Log.Filter
import RuntimeLauncher.Machine.Spawn
import RuntimeLauncher.Settings.Load
import RuntimeLauncher.Tool.Perform
import RuntimeLauncher.Tool.Usage

/-! The two programs: the launcher, and the tool for launch data. -/
namespace RuntimeLauncher

/-- What a program leaves behind when it exits, its files apart. -/
structure Exit where
  code : Nat
  printed : Text
  report : Option Text
  log : List Record

namespace Program

def logged (filter : Text) (events : List Event) : List Record :=
  (events.map Event.record).filter (Filter.parse filter).shows

/-- Loads settings, which is logged under the first filter, and goes on with them and the records so
far. -/
def withSettings {α : Type} (fs : FileSystem) (env : List (Text × Text))
    (failed : Exit → α) (next : Settings → List Record → α) : α :=
  let shown := logged (Verbosity.bootstrapFilter (Variables.ofList env))
    (Settings.environmentEvents fs env)
  match Settings.ofEnvironment fs env with
  | .error error => failed ⟨1, [], some error.message, shown⟩
  | .ok settings => next settings shown

/-- The launcher. `exe` is its own file, which carries the launch data. -/
def launcher (exe : Path) (env : List (Text × Text)) (args : List Text) (m : Machine) :
    Exit × Machine :=
  withSettings m.files env (·, m) fun settings shown =>
    let own := Variables.ofList env
    let host := Host.system m.files own
    let run := run m.files exe exe settings.runtime host (Machine.start own) args m
    let log := shown ++ logged settings.filter run.events
    match run.outcome with
    | .error error => (⟨1, [], some error.message, log⟩, run.world)
    | .ok code => (⟨forwardedCode code, [], none, log⟩, run.world)

/-- The tool. Settings are loaded before the command line is read. -/
def tool (env : List (Text × Text)) (args : List Tool.Word) (fs : FileSystem) : Exit × FileSystem :=
  withSettings fs env (·, fs) fun settings shown =>
    match Tool.Usage.parse args with
    | .error refusal => (⟨refusal.exitCode, refusal.message, none, shown⟩, fs)
    | .ok request =>
      let outcome := Tool.perform fs request
      let log := shown ++ logged settings.filter outcome.events
      match outcome.result with
      | .error error => (⟨1, [], some error.message, log⟩, outcome.files)
      | .ok text => (⟨0, text ++ ['\n'], none, log⟩, outcome.files)

end Program

end RuntimeLauncher
