import RuntimeLauncher.Launch.Run
import RuntimeLauncher.Machine.Shell

/-! Starting programs on a machine: where they are looked up, and how scripts find their shell. -/
namespace RuntimeLauncher.Machine

def shells : List Path := ["/bin/sh".toList, "/usr/bin/sh".toList]

/-- A machine with a shell, two commands that do nothing, and an empty working directory. -/
def standard (workingDirectory : Path) : Machine :=
  let program (content : String) : Node := .file (Utf8.encode content.toList) ⟨true, true, true⟩
  let files := (FileSystem.empty workingDirectory).place "/tmp/.keep".toList (program "")
  let files := shells.foldl (fun files shell => files.place shell (program "shell")) files
  let files := files.place "/bin/true".toList (program "#!/bin/sh\nexit 0")
  ⟨files.place "/bin/false".toList (program "#!/bin/sh\nexit 1"), []⟩

/-- The interpreter that the first line of a script names, and the argument given to it there. -/
def interpreter? (content : Bytes) : Option (Path × Option Text) :=
  match Utf8.decodeLossy (content.takeWhile (· != 10)) with
  | '#' :: '!' :: line =>
    let isBlank (c : Char) : Bool := c == ' ' || c == '\t'
    let line := ((line.dropWhile isBlank).reverse.dropWhile isBlank).reverse
    match line.takeWhile (!isBlank ·), (line.dropWhile (!isBlank ·)).dropWhile isBlank with
    | [], _ => none
    | path, [] => some (path, none)
    | path, argument => some (path, some argument)
  | _ => none

def runShell (m : Machine) (env : Variables) : List Text → WaitStatus × Machine
  | ['-', 'c'] :: script :: rest =>
    Shell.finish ⟨env, rest.headD "sh".toList, rest.tail, 0, m, none⟩ (Script.parse script)
  | file :: rest =>
    match m.files.readText file with
    | .error _ => (.ofCode 2, m)
    | .ok script => Shell.finish ⟨env, file, rest, 0, m, none⟩ (Script.parse script)
  | [] => (.ofCode 0, m)

/-- Runs the program in a file, through at most `depth` interpreters. -/
def execute (m : Machine) (env : Variables) :
    Nat → Path → List Text → Except Failure (WaitStatus × Machine)
  | 0, _, _ => .error .tooManyLinks
  | depth + 1, program, args => do
    match m.files.node (← m.files.locate program) with
    | none => .error .notFound
    | some .directory => .error .permissionDenied
    | some (.link _) => .error .tooManyLinks
    | some (.file content access) =>
      if !access.executable then .error .permissionDenied
      else if shells.any fun shell => (m.files.locate shell).toOption ==
          (m.files.locate program).toOption then .ok (m.runShell env args)
      else match interpreter? content with
        | none => .error .notExecutable
        | some (path, argument) => execute m env depth path (argument.toList ++ program :: args)

/-- The greatest number of files from a script to the program that runs it. -/
def maxInterpreters : Nat := 5

def pathVariable : Text := "PATH".toList

def searchPath (env : Variables) : List Text :=
  ((env pathVariable).getD "/bin:/usr/bin".toList).splitOn ':'

/-- Runs the first program of a name in some directories, of which an empty one is the working
directory. A file that may not be run is passed over, and is the error if none follows. With
`scripts`, a file of no known kind is a script for the shell. -/
def executeBare (m : Machine) (env : Variables) (scripts : Bool) (name : Text) (args : List Text) :
    Failure → List Text → Except Failure (WaitStatus × Machine)
  | failure, [] => .error failure
  | failure, directory :: rest =>
    let program := if directory = [] then name else directory ++ '/' :: name
    match m.execute env maxInterpreters program args with
    | .error .permissionDenied => executeBare m env scripts name args .permissionDenied rest
    | .error .notFound => executeBare m env scripts name args failure rest
    | .error .notADirectory => executeBare m env scripts name args failure rest
    | .error .notExecutable =>
      if scripts then .ok (m.runShell env (program :: args)) else .error .notExecutable
    | .error other => .error other
    | .ok result => .ok result

/-- Starts a command among the variables of its parent, and waits for it. The lookup of a bare name
takes scripts of no known kind only when the command sets the search path itself. -/
def spawn (env : Variables) (command : Command) (m : Machine) :
    Except Failure (WaitStatus × Machine) :=
  let child := command.environment.onto env
  let words := command.program :: command.argv ++
    command.environment.pairs.flatMap fun pair => [pair.1, pair.2]
  if words.any (·.contains '\x00') then .error .nulInArgument
  else if command.program = [] then .error .notFound
  else if command.program.contains '/' then
    m.execute child maxInterpreters command.program command.argv
  else
    m.executeBare child (command.environment.keys.contains pathVariable) command.program
      command.argv .notFound (searchPath child)

def start (env : Variables) : Start Machine := fun command m =>
  match spawn env command m with
  | .error failure => (.error failure, m)
  | .ok (status, m) => (.ok status.exitCode, m)

end RuntimeLauncher.Machine
