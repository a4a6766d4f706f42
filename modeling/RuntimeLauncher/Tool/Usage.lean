import RuntimeLauncher.Environment
import RuntimeLauncher.Text.Utf8
import RuntimeLauncher.Tool.Perform

/-! The command line of the launch-data tool. -/
namespace RuntimeLauncher.Tool

/-- An argument of a command line. Bytes that are no text are shown with replacements. -/
structure Word where
  text : Text
  isText : Bool := true
  deriving DecidableEq, Repr

namespace Word

def ofBytes (bytes : Bytes) : Word := ⟨Utf8.decodeLossy bytes, (Utf8.decode bytes).isSome⟩

end Word

inductive Refusal where
  | missingRequiredArgument
  | unknownArgument
  /-- A value is missing or empty, or names no format. -/
  | invalidValue
  /-- An entry that is no `KEY=VALUE`. -/
  | valueValidation
  /-- A value that is no text, where only text will do. -/
  | invalidUtf8
  /-- An option that takes one value is repeated. -/
  | argumentConflict
  /-- A value for an option that takes none. -/
  | tooManyValues
  | invalidSubcommand
  | displayHelp
  | displayVersion
  | displayHelpOnMissingArgumentOrSubcommand
  deriving DecidableEq, Repr

namespace Refusal

/-- Help is not part of this library; the version is. -/
def message : Refusal → Text
  | .displayVersion => "launch-data 0.1.0\n".toList
  | _ => []

/-- Help and version are answers; everything else is a mistake. -/
def exitCode : Refusal → Nat
  | .displayHelp => 0
  | .displayVersion => 0
  | _ => 2

end Refusal

/-- Cuts `KEY=VALUE` at the first `=`, or says what is wrong. -/
def keyValue (raw : Text) : Except Text (Text × Text) :=
  match Assignments.parseEntry raw with
  | .ok pair => .ok pair
  | .error raw => .error ("expected KEY=VALUE, got `".toList ++ raw ++ ['`'])

namespace Usage

inductive OptionName where
  | output
  | entries
  | set
  | format
  deriving DecidableEq, Repr

namespace OptionName

def text : OptionName → Text
  | .output => "output".toList
  | .entries => "entries".toList
  | .set => "set".toList
  | .format => "format".toList

def letter? : OptionName → Option Char
  | .output => some 'o'
  | _ => none

def isRepeatable : OptionName → Bool
  | .set => true
  | _ => false

def refusal? (name : OptionName) (value : Word) : Option Refusal :=
  match name with
  | .output => if value.text = [] then some .invalidValue else none
  | .entries => if value.text = [] then some .invalidValue else none
  | .format =>
    if !value.isText then some .invalidUtf8
    else if value.text = "json".toList ∨ value.text = "toml".toList then none
    else some .invalidValue
  | .set =>
    if !value.isText then some .invalidUtf8
    else match keyValue value.text with
      | .ok _ => none
      | .error _ => some .valueValidation

end OptionName

inductive Subcommand where
  | embed
  | dump
  deriving DecidableEq, Repr

namespace Subcommand

def ofText? (t : Text) : Option Subcommand :=
  if t = "embed".toList then some .embed
  else if t = "dump".toList then some .dump
  else none

def options : Subcommand → List OptionName
  | .embed => [.output, .entries, .set]
  | .dump => [.format]

end Subcommand

structure Accepted where
  file : Option Text := none
  options : List (OptionName × Text) := []

namespace Accepted

def value? (a : Accepted) (name : OptionName) : Option Text := a.options.lookup name

def values (a : Accepted) (name : OptionName) : List Text :=
  (a.options.filter (·.1 = name)).map (·.2)

end Accepted

inductive Pending where
  | nothing
  | file (value : Text)
  | option (name : OptionName) (value : Option Word)

def Pending.accept (a : Accepted) : Pending → Except Refusal Accepted
  | .nothing => .ok a
  | .file value => if value = [] then .error .invalidValue else .ok { a with file := some value }
  | .option _ none => .error .invalidValue
  | .option name (some value) =>
    if !name.isRepeatable ∧ (a.value? name).isSome then .error .argumentConflict
    else match name.refusal? value with
      | some refusal => .error refusal
      | none => .ok { a with options := a.options ++ [(name, value.text)] }

/-- An option as it is written, with the value attached to it. -/
inductive Written where
  | long (name : Text) (value : Option Text)
  | short (letter : Char) (value : Option Text)

/-- The option that a token writes. A lone dash writes none. -/
def written? : Text → Option Written
  | '-' :: '-' :: rest =>
    match cutFirst '=' rest with
    | some (name, value) => some (.long name (some value))
    | none => some (.long rest none)
  | '-' :: letter :: '=' :: value => some (.short letter (some value))
  | '-' :: letter :: [] => some (.short letter none)
  | '-' :: letter :: value => some (.short letter (some value))
  | _ => none

/-- Whether an option asks for help. Letters after the one for help are not looked at. -/
def asksForHelp : Written → Bool
  | .long name _ => name == "help".toList
  | .short letter _ => letter == 'h'

def isOverfull : Written → Bool
  | .long _ value => value.isSome
  | .short _ _ => false

def value? : Written → Option Text
  | .long _ value => value
  | .short _ value => value

def option? (options : List OptionName) : Written → Option OptionName
  | .long name _ => options.find? (·.text = name)
  | .short letter _ => options.find? (·.letter? = some letter)

/-- Reads the arguments of a subcommand, one file and its options. After `--` only files come. -/
def scan (options : List OptionName) (a : Accepted) (pending : Pending) (filesOnly : Bool) :
    List Word → Except Refusal Accepted
  | [] => pending.accept a
  | token :: rest =>
    let file : Except Refusal Accepted :=
      match a.file, pending with
      | some _, _ => .error .unknownArgument
      | none, .file _ => .error .unknownArgument
      | none, pending => do scan options (← pending.accept a) (.file token.text) filesOnly rest
    if filesOnly then file
    else if token.text = ['-', '-'] then scan options a pending true rest
    else match written? token.text with
      | some written =>
        if asksForHelp written then
          if isOverfull written then .error .tooManyValues
          else do
            let _ ← pending.accept a
            .error .displayHelp
        else match option? options written with
          | none => .error .unknownArgument
          | some name => do
            let a ← pending.accept a
            match value? written with
            | none => scan options a (.option name none) false rest
            | some value =>
              let word : Word := ⟨value, token.isText⟩
              scan options (← (Pending.option name (some word)).accept a) .nothing false rest
      | none =>
        match pending with
        | .option name none => scan options a (.option name (some token)) false rest
        | _ => file

def request (sub : Subcommand) (a : Accepted) : Except Refusal Request :=
  match sub, a.file, a.value? .output with
  | .embed, some launcher, some output =>
    .ok (.embed ⟨launcher, output, a.value? .entries,
      (a.values .set).filterMap fun raw => (keyValue raw).toOption⟩)
  | .dump, some binary, _ =>
    .ok (.dump ⟨binary, if a.value? .format = some "toml".toList then .toml else .json⟩)
  | _, _, _ => .error .missingRequiredArgument

def isSubcommand (name : Text) : Bool :=
  (Subcommand.ofText? name).isSome || name == "help".toList

/-- Help on a subcommand. There is nothing below one. -/
def help : List Word → Refusal
  | [] => .displayHelp
  | [name] =>
    if isSubcommand name.text then .displayHelp
    else .invalidSubcommand
  | _ => .invalidSubcommand

def leading : Written → Refusal
  | .long name value =>
    if name = "help".toList then if value.isSome then .tooManyValues else .displayHelp
    else if name = "version".toList then if value.isSome then .tooManyValues else .displayVersion
    else .unknownArgument
  | .short letter _ =>
    if letter = 'h' then .displayHelp
    else if letter = 'V' then .displayVersion
    else .unknownArgument

def parse : List Word → Except Refusal Request
  | [] => .error .displayHelpOnMissingArgumentOrSubcommand
  | token :: rest =>
    if token.text = ['-', '-'] then
      match rest with
      | [] => .error .displayHelpOnMissingArgumentOrSubcommand
      | token :: _ =>
        .error (if isSubcommand token.text then .unknownArgument else .invalidSubcommand)
    else if token.text = "help".toList then .error (help rest)
    else match Subcommand.ofText? token.text with
      | some sub => do request sub (← scan sub.options {} .nothing false rest)
      | none =>
        match written? token.text with
        | some written => .error (leading written)
        | none => .error .invalidSubcommand

end Usage

end RuntimeLauncher.Tool
