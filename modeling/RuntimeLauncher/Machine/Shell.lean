import RuntimeLauncher.Environment
import RuntimeLauncher.FileSystem.Change
import RuntimeLauncher.Machine.Script
import RuntimeLauncher.Machine.WaitStatus
import RuntimeLauncher.Number

/-! Running shell scripts on a machine that is a tree of files and the text printed so far. -/
namespace RuntimeLauncher

structure Machine where
  files : FileSystem
  /-- What processes have written to the standard output. -/
  printed : Text

namespace Machine

structure Shell where
  env : Variables
  name : Text
  arguments : List Text
  status : Nat
  machine : Machine
  ended : Option WaitStatus

namespace Shell

def processNumber : Text := "4242".toList

def number (n : Nat) : Text := Nat.toDigits 10 n

def parameter (s : Shell) (name : Text) : Text :=
  if name = ['@'] ∨ name = ['*'] then [' '].intercalate s.arguments
  else if name = ['#'] then number s.arguments.length
  else if name = ['?'] then number s.status
  else if name = ['$'] then processNumber
  else if name = ['0'] then s.name
  else if name ≠ [] ∧ name.all Char.isDigit then
    (s.arguments[(String.ofList name).toNat?.getD 0 - 1]?).getD []
  else (s.env name).getD []

/-- The characters of a word, and whether a blank among them separates fields. -/
def expandPiece (s : Shell) : Piece → List (Char × Bool)
  | .text t _ => t.map (·, false)
  | .parameter name quoted => (s.parameter name).map (·, !quoted)

def isQuoted : Piece → Bool
  | .text _ quoted => quoted
  | .parameter _ quoted => quoted

/-- The fields of a word. The quoted list of all arguments has a field for each. -/
def expand (s : Shell) (w : Word) : List Text :=
  if w.filter (· ≠ .text [] true) = [.parameter ['@'] true] then s.arguments
  else
    let separates (c : Char × Bool) : Bool := c.2 && (c.1 == ' ' || c.1 == '\t' || c.1 == '\n')
    let fields := (((w.flatMap s.expandPiece).splitOnP separates).filter (· ≠ []))
    if fields = [] ∧ w.any isQuoted then [[]] else fields.map fun field => field.map (·.1)

def print (s : Shell) (t : Text) : Shell :=
  { s with machine := { s.machine with printed := s.machine.printed ++ t }, status := 0 }

def unescape : Text → Text
  | '\\' :: 'n' :: rest => '\n' :: unescape rest
  | '\\' :: 't' :: rest => '\t' :: unescape rest
  | '\\' :: 'r' :: rest => '\r' :: unescape rest
  | '\\' :: '\\' :: rest => '\\' :: unescape rest
  | c :: rest => c :: unescape rest
  | [] => []

/-- Writes arguments into a format, once through. What is left of the arguments is given back. -/
def format : Text → List Text → Text × List Text
  | '%' :: '%' :: rest, args => let (t, left) := format rest args; ('%' :: t, left)
  | '%' :: 's' :: rest, args =>
    let (t, left) := format rest args.tail
    (args.headD [] ++ t, left)
  | '%' :: 'd' :: rest, args =>
    let (t, left) := format rest args.tail
    ((if args.headD [] = [] then ['0'] else args.headD []) ++ t, left)
  | c :: rest, args => let (t, left) := format rest args; (c :: t, left)
  | [], args => ([], args)

def formatAll : Nat → Text → List Text → Text
  | 0, _, _ => []
  | more + 1, pattern, args =>
    let (t, left) := format pattern args
    if left = [] ∨ left.length = args.length then t else t ++ formatAll more pattern left

def signals : List (Text × Nat) :=
  [("HUP".toList, 1), ("INT".toList, 2), ("QUIT".toList, 3), ("ILL".toList, 4),
    ("TRAP".toList, 5), ("ABRT".toList, 6), ("BUS".toList, 7), ("FPE".toList, 8),
    ("KILL".toList, 9), ("USR1".toList, 10), ("SEGV".toList, 11), ("USR2".toList, 12),
    ("PIPE".toList, 13), ("ALRM".toList, 14), ("TERM".toList, 15), ("XCPU".toList, 24),
    ("XFSZ".toList, 25), ("VTALRM".toList, 26), ("PROF".toList, 27),
    ("POLL".toList, 29), ("PWR".toList, 30), ("SYS".toList, 31)]

def signal? (t : Text) : Option Nat :=
  match (String.ofList t).toNat? with
  | some n => some n
  | none => signals.lookup ((stripStart "SIG".toList t).getD t)

/-- Sends a signal to a process, which must be the shell itself. -/
def kill (s : Shell) (signal target : Text) : Shell :=
  match signal? signal with
  | some n =>
    if target ≠ processNumber then { s with status := 1 }
    else if n = 0 then { s with status := 0 }
    else { s with ended := some (.ofSignal n) }
  | none => { s with status := 1 }

def exit (s : Shell) (code : Nat) : Shell := { s with ended := some (.ofCode code) }

/-- Sets the permission bits of a file, which are given in octal digits. -/
def changeMode (s : Shell) (mode file : Text) : Shell :=
  if mode ≠ [] ∧ mode.all (fun c => '0' ≤ c && c ≤ '7') then
    match s.machine.files.setAccess file (.ofMode (ofDigits 8 mode)) with
    | .ok files => { s with machine := { s.machine with files }, status := 0 }
    | .error _ => { s with status := 1 }
  else { s with status := 1 }

/-- Runs a simple command: one that the shell has itself, or the one that sets permissions. -/
def command (s : Shell) : List Text → Shell
  | [] => { s with status := 0 }
  | name :: args =>
    if name = "echo".toList then s.print (unescape ([' '].intercalate args) ++ ['\n'])
    else if name = "printf".toList then
      match args with
      | [] => { s with status := 2 }
      | pattern :: args => s.print (formatAll (args.length + 1) (unescape pattern) args)
    else if name = "exit".toList then
      s.exit (((args.head?.bind fun code => (String.ofList code).toNat?)).getD s.status)
    else if name = "kill".toList then
      match args with
      | [dash :: signal, target] => if dash = '-' then s.kill signal target else { s with status := 1 }
      | [['-', 's'], signal, target] => s.kill signal target
      | [target] => s.kill "TERM".toList target
      | _ => { s with status := 2 }
    else if name = "chmod".toList then
      match args with
      | [mode, file] => s.changeMode mode file
      | _ => { s with status := 1 }
    else if name = "pwd".toList then s.print (s.machine.files.workingDirectory ++ ['\n'])
    else if name = "true".toList ∨ name = ":".toList then { s with status := 0 }
    else if name = "false".toList then { s with status := 1 }
    else { s with status := 127 }

def assignment? (field : Text) : Option (Text × Text) :=
  match cutFirst '=' field with
  | some (name, value) =>
    if headIs Token.isNameStart name ∧ name.all Token.isNameChar then
      some (name, value)
    else none
  | none => none

/-- Runs the words of a simple command, after the assignments in front of them. -/
def simple (s : Shell) : List Text → Shell
  | [] => s
  | field :: rest =>
    match assignment? field with
    | some (name, value) =>
      simple { s with env := s.env.set name value, status := 0 } rest
    | none => s.command (field :: rest)

def run (s : Shell) : Script → Shell
  | .skip => s
  | .simple words => if s.ended.isSome then s else s.simple (words.flatMap s.expand)
  | .both first second => (s.run first).run second
  | .next ifSuccess first second =>
    let s := s.run first
    if (s.status = 0) = (ifSuccess = true) then s.run second else s
  | .each name words body =>
    (words.flatMap s.expand).foldl (fun s value =>
      if s.ended.isSome then s
      else ({ s with env := s.env.set name value } : Shell).run body) s
  | .choice condition yes no =>
    let s := s.run condition
    if s.status = 0 then s.run yes else s.run no
  | .redirected body output =>
    if s.ended.isSome then s
    else
      let target := (s.expand output.target).headD []
      let opened := if output.append ∧ s.machine.files.isFile target then .ok s.machine.files
        else (s.machine.files.truncate target {}).map (·.2)
      match opened with
      | .error _ => { s with status := 2 }
      | .ok files =>
        let done := ({ s with machine := ⟨files, []⟩ } : Shell).run body
        let files := (done.machine.files.append target (Utf8.encode done.machine.printed)).toOption
        { done with machine := ⟨files.getD done.machine.files, s.machine.printed⟩ }

/-- How a shell ends that runs a script to its last command, and the machine after it. -/
def finish (s : Shell) (script : Option Script) : WaitStatus × Machine :=
  match script with
  | none => (.ofCode 2, s.machine)
  | some script =>
    let done := s.run script
    (done.ended.getD (.ofCode done.status), done.machine)

end Shell

end Machine

end RuntimeLauncher
