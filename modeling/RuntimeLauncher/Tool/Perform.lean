import RuntimeLauncher.Json.Pretty
import RuntimeLauncher.LaunchData.Codec
import RuntimeLauncher.Log.Event
import RuntimeLauncher.Text.Characters
import RuntimeLauncher.Toml.Document
import RuntimeLauncher.Toml.Writing

/-! What the launch-data tool can be asked for, and carrying it out: embedding launch data in a copy
of a launcher, and showing it. -/
namespace RuntimeLauncher.Tool

inductive Format where
  | json
  | toml
  deriving DecidableEq, Repr

/-- Copy a launcher and add launch data to the copy. -/
structure EmbedRequest where
  launcher : Path
  output : Path
  entries : Option Path
  /-- Single entries, which override those of the file. -/
  set : List (Text × Text)
  deriving DecidableEq, Repr

/-- Show the launch data of a binary. -/
structure DumpRequest where
  binary : Path
  format : Format
  deriving DecidableEq, Repr

inductive Request where
  | embed (request : EmbedRequest)
  | dump (request : DumpRequest)
  deriving DecidableEq, Repr

inductive Error where
  | outputIsLauncher (output : Path)
  | entriesUnreadable (file : Path) (cause : Failure)
  /-- The entries are no table of strings. -/
  | entriesNotFlat (file : Path)
  | copyFailed (launcher output : Path) (cause : Failure)
  | launchData (cause : LaunchData.Error)
  deriving DecidableEq, Repr

namespace Error

def message : Error → Text
  | .outputIsLauncher output =>
    "output ".toList ++ output ++
      " is the launcher itself; launch data must go into a copy".toList
  | .entriesUnreadable file cause =>
    "failed to read entries file ".toList ++ file ++ ": ".toList ++ cause.message
  | .entriesNotFlat file =>
    "entries file ".toList ++ file ++ " must be a flat table of string values".toList
  | .copyFailed launcher output cause =>
    "failed to copy ".toList ++ launcher ++ " to ".toList ++ output ++ ": ".toList ++ cause.message
  | .launchData cause => cause.message

end Error

/-- What a request printed or why it failed, what it left in the log, and the files after it. -/
structure Outcome where
  result : Except Error Text
  events : List Event
  files : FileSystem

def readEntries (fs : FileSystem) (file : Path) : Except Error (List (Text × Text)) :=
  match fs.readText file with
  | .error cause => .error (.entriesUnreadable file cause)
  | .ok text =>
    match (Toml.parse text).bind Toml.Table.strings? with
    | none => .error (.entriesNotFlat file)
    | some entries => .ok entries

/-- The launch data that a request describes: the entries of the file, and single ones on top. -/
def EmbedRequest.data (r : EmbedRequest) (fs : FileSystem) : Except Error LaunchData := do
  let entries ← match r.entries with
    | none => .ok []
    | some file => readEntries fs file
  return (LaunchData.ofList entries).insertMany r.set

def EmbedRequest.confirmation (r : EmbedRequest) (data : LaunchData) : Text :=
  Json.render (.object [("keys".toList, .array (data.keys.map .string)),
    ("launcher".toList, .string r.launcher), ("output".toList, .string r.output),
    ("status".toList, .string "embedded".toList)])

/-- Copies a launcher and adds the data to the copy. Everything that can be checked before is. -/
def embed (fs : FileSystem) (r : EmbedRequest) : Outcome :=
  if Path.components r.output = Path.components r.launcher then
    ⟨.error (.outputIsLauncher r.output), [], fs⟩
  else match r.data fs with
    | .error error => ⟨.error error, [], fs⟩
    | .ok data =>
      match data.encode with
      | .error cause => ⟨.error (.launchData cause), [], fs⟩
      | .ok _ =>
        match fs.copy r.launcher r.output with
        | .error cause => ⟨.error (.copyFailed r.launcher r.output cause), [], fs⟩
        | .ok copied =>
          match data.appendTo copied r.output with
          | .error cause => ⟨.error (.launchData cause), [], copied⟩
          | .ok files => ⟨.ok (r.confirmation data), [.dataEmbedded r.output data.keys], files⟩

def render (data : LaunchData) : Format → Text
  | .json => Json.render (.object (data.entries.map fun entry => (entry.1, .string entry.2)))
  | .toml => Toml.write data.entries

/-- Shows the launch data of a binary, without blanks at the end. -/
def dump (fs : FileSystem) (r : DumpRequest) : Outcome :=
  match LaunchData.ofBinary fs r.binary with
  | .error cause => ⟨.error (.launchData cause), [], fs⟩
  | .ok data =>
    ⟨.ok (Text.trimEnd (Tool.render data r.format)), [.launchDataRead r.binary data.keys], fs⟩

def perform (fs : FileSystem) : Request → Outcome
  | .embed r => embed fs r
  | .dump r => dump fs r

end RuntimeLauncher.Tool
