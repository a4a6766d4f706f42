import RuntimeLauncher.Proofs.FileSystem.Writing
import RuntimeLauncher.Proofs.Machine.Passing

/-! Which file a program is: with a slash in it the file that it leads to, and else one of its name
in a directory of the search path. -/
namespace RuntimeLauncher

/-- The words that a command is started with, none of which may hold a NUL character. -/
def Command.words (command : Command) : List Text :=
  command.program :: command.argv ++
    command.environment.pairs.flatMap fun pair => [pair.1, pair.2]

namespace Machine

variable (m : Machine) (env : Variables)

/-- Runs the file at a location as a program, through at most `depth` interpreters. Its text says
whether there is one. -/
def executeFile (depth : Nat) (program : Path) (location : Location) (content : Bytes)
    (access : Access) (args : List Text) : Except Failure (WaitStatus × Machine) :=
  if !access.executable then .error .permissionDenied
  else if shells.any fun shell => (m.files.locate shell).toOption == some location then
    .ok (m.runShell env args)
  else match interpreter? content with
    | none => .error .notExecutable
    | some (path, argument) => m.execute env depth path (argument.toList ++ program :: args)

def inDirectory (directory name : Text) : Path :=
  if directory = [] then name else directory ++ '/' :: name

/-- A directory has a program of this name, which is started with this result. With `scripts`, a
file of no known kind is a script for the shell. -/
inductive StartsIn (scripts : Bool) (name : Text) (args : List Text) (directory : Text) :
    WaitStatus × Machine → Prop
  | program {result : WaitStatus × Machine}
    (h : m.execute env maxInterpreters (inDirectory directory name) args = .ok result) :
    StartsIn scripts name args directory result
  | script (hscripts : scripts = true)
    (h : m.execute env maxInterpreters (inDirectory directory name) args = .error .notExecutable) :
    StartsIn scripts name args directory (m.runShell env (inDirectory directory name :: args))

/-- Commands for a program run the file that it leads to, whatever the search path is. -/
def RunsFile (program : Path) : Prop :=
  ∃ location content access, m.files.FileAt program location content access ∧
    ∀ parent command, command.program = program → (∀ word ∈ command.words, '\x00' ∉ word) →
      m.spawn parent command =
        m.executeFile (command.environment.onto parent) (maxInterpreters - 1) program location content
          access command.argv

/-- Commands for a program run what a directory of the search path has by its name, if any. -/
def Searches (program : Path) : Prop :=
  ∀ parent command, command.program = program → (∀ word ∈ command.words, '\x00' ∉ word) →
    let child := command.environment.onto parent
    let scripts := command.environment.keys.contains pathVariable
    m.spawn parent command =
        m.executeBare child scripts program command.argv .notFound (searchPath child) ∧
      ∀ result, m.spawn parent command = .ok result →
        ∃ directory ∈ searchPath child, m.StartsIn child scripts program command.argv directory result

variable {m : Machine} {env : Variables}

/-- A program with a file runs this file, and nothing else of the tree decides that. -/
theorem execute_of_fileAt {program : Path} {location : Location} {content : Bytes}
    {access : Access} (h : m.files.FileAt program location content access) (depth : Nat)
    (args : List Text) :
    m.execute env (depth + 1) program args =
      m.executeFile env depth program location content access args := by
  rw [execute, h.locate, ok_bind]
  simp only [h.node]
  rfl

theorem executeBare_of_started {scripts : Bool} {name directory : Text} {args : List Text}
    {result : WaitStatus × Machine}
    (h : m.execute env maxInterpreters (inDirectory directory name) args = .ok result)
    {failure : Failure} {rest : List Text} :
    m.executeBare env scripts name args failure (directory :: rest) = .ok result := by
  rw [inDirectory] at h
  simp only [executeBare, h]

/-- What a search starts is in a directory of the search path. -/
theorem exists_startsIn_of_executeBare {scripts : Bool} {name : Text} {args : List Text}
    {failure : Failure} {directories : List Text} {result : WaitStatus × Machine}
    (h : m.executeBare env scripts name args failure directories = .ok result) :
    ∃ directory ∈ directories, m.StartsIn env scripts name args directory result := by
  induction directories generalizing failure with
  | nil => contradiction
  | cons directory rest ih =>
    have hlater {failure : Failure}
        (hrest : m.executeBare env scripts name args failure rest = .ok result) :
        ∃ directory' ∈ directory :: rest, m.StartsIn env scripts name args directory' result := by
      obtain ⟨directory', hmem, hstarts⟩ := ih hrest
      exact ⟨directory', List.mem_cons_of_mem _ hmem, hstarts⟩
    cases hexecute : m.execute env maxInterpreters (inDirectory directory name) args with
    | ok started =>
      obtain rfl := Except.ok.inj ((executeBare_of_started hexecute).symm.trans h)
      exact ⟨directory, List.mem_cons_self, .program hexecute⟩
    | error cause =>
      have hhere := hexecute
      rw [inDirectory] at hhere
      simp only [executeBare, hhere] at h
      -- the search goes on behind a program that is missing or may not be run
      cases cause with
      | permissionDenied => exact hlater h
      | notFound => exact hlater h
      | notADirectory => exact hlater h
      | notExecutable =>
        cases scripts with
        | false => contradiction
        | true =>
          rw [if_pos rfl, Except.ok.injEq] at h
          exact ⟨directory, List.mem_cons_self, h ▸ .script rfl hexecute⟩
      | _ => contradiction

/-- A command is started by its program alone, or looked up on the search path of its child. -/
theorem spawn_of_words {parent : Variables} {command : Command}
    (hwords : ∀ word ∈ command.words, '\x00' ∉ word) (hne : command.program ≠ []) :
    m.spawn parent command =
      if '/' ∈ command.program then
        m.execute (command.environment.onto parent) maxInterpreters command.program command.argv
      else
        m.executeBare (command.environment.onto parent)
          (command.environment.keys.contains pathVariable) command.program command.argv .notFound
          (searchPath (command.environment.onto parent)) := by
  have hnul : ¬ command.words.any (·.contains '\x00') = true := by
    simpa using hwords
  rw [Command.words] at hnul
  simp only [spawn, if_neg hnul, if_neg hne, List.contains_iff_mem]

theorem runsFile_of_fileAt {program : Path} {location : Location} {content : Bytes}
    {access : Access} (h : m.files.FileAt program location content access) (hslash : '/' ∈ program) :
    m.RunsFile program := by
  refine ⟨location, content, access, h, ?_⟩
  rintro parent command rfl hwords
  rw [spawn_of_words hwords h.ne_nil, if_pos hslash]
  exact execute_of_fileAt h _ _

theorem searches_of_bare {program : Path} (hne : program ≠ []) (hslash : '/' ∉ program) :
    m.Searches program := by
  rintro parent command rfl hwords
  have hspawn : m.spawn parent command = _ := spawn_of_words hwords hne
  rw [if_neg hslash] at hspawn
  refine ⟨hspawn, fun result hresult => ?_⟩
  rw [hspawn] at hresult
  exact exists_startsIn_of_executeBare hresult

end Machine

end RuntimeLauncher
