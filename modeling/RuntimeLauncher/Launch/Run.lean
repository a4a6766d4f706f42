import RuntimeLauncher.Launch.Plan

/-! Running a launcher: from its binary and its command line to the end of its child. -/
namespace RuntimeLauncher

/-- Starts a command in a world, and waits for it. -/
abbrev Start (World : Type) := Command → World → Except Failure Int × World

/-- What a run did and how it ended. -/
structure Run (World : Type) where
  events : List Event
  started : List Command
  outcome : Except LaunchError Int
  world : World

/-- A run that ends before anything is started. -/
def Run.stopped {World : Type} (events : List Event) (error : LaunchError) (world : World) :
    Run World := ⟨events, [], .error error, world⟩

def Plan.startEvents (plan : Plan) : List Event :=
  [.runtimeStarting plan.variant.name plan.binary.path plan.binary.usedFallback,
    .argumentsPassed plan.command.argv plan.command.environment.keys]

namespace Launcher

variable {World : Type}

def launch (l : Launcher) (start : Start World) (args : List Text) (world : World) : Run World :=
  match l.plan args with
  | .error error => .stopped (l.planEvents args) error world
  | .ok plan =>
    let events := l.planEvents args ++ plan.startEvents
    match start plan.command world with
    | (.error cause, world) =>
      ⟨events, [plan.command], .error (.spawn plan.command.program cause), world⟩
    | (.ok code, world) =>
      ⟨events ++ [.runtimeExited plan.binary.path code], [plan.command], .ok code, world⟩

end Launcher

/-- The absolute path a launcher was started as. A name without a directory stands for the running
executable. -/
def launcherPath (cwd exe : Path) (argv0 : Option Text) : Except LaunchError Path :=
  match argv0 with
  | none => .error .missingArgv0
  | some [] => .error .missingArgv0
  | some argv0 =>
    match Path.parent argv0 with
    | none => .ok exe
    | some [] => .ok exe
    | some _ => .ok (Path.absolute cwd argv0)

/-- The launcher that a binary and the path it was started as make. -/
def Launcher.at (fs : FileSystem) (data : LaunchData) (runtime : RuntimeSettings) (host : Host)
    (launcher : Path) : Launcher :=
  ⟨data, runtime, Runfiles.discover fs launcher (some fs.workingDirectory) host.env, host⟩

/-- Reads the launch data of a binary and launches what it describes. The first argument is replaced
by the path of the launcher. -/
def run {World : Type} (fs : FileSystem) (exe binary : Path) (runtime : RuntimeSettings)
    (host : Host) (start : Start World) (args : List Text) (world : World) : Run World :=
  match LaunchData.ofBinary fs binary with
  | .error cause => .stopped [] (.launchData cause) world
  | .ok data =>
    let read : List Event := [.launchDataRead binary data.keys]
    match launcherPath fs.workingDirectory exe args.head? with
    | .error error => .stopped read error world
    | .ok launcher =>
      let launched :=
        (Launcher.at fs data runtime host launcher).launch start (launcher :: args.tail) world
      { launched with
        events := read ++ .launcherLocated launcher ::
          Runfiles.discoveryEvents fs launcher (some fs.workingDirectory) host.env ++
          launched.events }

end RuntimeLauncher
