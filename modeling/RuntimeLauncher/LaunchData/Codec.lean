import RuntimeLauncher.FileSystem.Change
import RuntimeLauncher.LaunchData.Basic
import RuntimeLauncher.Number

/-! The stored form of launch data: `key=value` entries, each with a final NUL, and after them their
length as eight bytes, lowest first. Binaries carry it at their end. -/
namespace RuntimeLauncher.LaunchData

inductive Error where
  | io (path : Path) (cause : Failure)
  /-- The binary has no room for the length field. -/
  | truncated (path : Path) (length : Nat)
  | invalidSize (size : Int) (length : Nat)
  | missingSeparator (offset : Nat)
  | invalidUtf8 (offset : Nat)
  | invalidKey (key : Text)
  | invalidValue (key : Text)
  deriving DecidableEq, Repr

def Error.message : Error → Text
  | .io path cause => "I/O failed for ".toList ++ path ++ ": ".toList ++ cause.message
  | .truncated path length =>
    path ++ " is too short (".toList ++ (toString length).toList ++
      " bytes) to carry launch data".toList
  | .invalidSize size length =>
    "launch data size ".toList ++ (toString size).toList ++
      " does not fit in a binary of ".toList ++ (toString length).toList ++ " bytes".toList
  | .missingSeparator offset =>
    "launch data entry at offset ".toList ++ (toString offset).toList ++
      " has no `=` after its key".toList
  | .invalidUtf8 offset =>
    "launch data entry at offset ".toList ++ (toString offset).toList ++
      " is not valid UTF-8".toList
  | .invalidKey key =>
    "launch data key `".toList ++ key ++ "` must not be empty or contain `=` or NUL".toList
  | .invalidValue key =>
    "launch data value for `".toList ++ key ++ "` must not contain NUL".toList

def sizeBytes : Nat := 8

/-- The lowest `count` bytes of a number, lowest first. -/
def littleEndian : Nat → Nat → Bytes
  | 0, _ => []
  | count + 1, n => UInt8.ofNat n :: littleEndian count (n / 256)

def ofLittleEndian : Bytes → Nat
  | [] => 0
  | b :: rest => b.toNat + 256 * ofLittleEndian rest

/-- What the stored form cannot hold in an entry: an empty key, `=` or NUL in the key, NUL in the
value. -/
def entryError? (entry : Text × Text) : Option Error :=
  if entry.1 = [] ∨ '=' ∈ entry.1 ∨ '\x00' ∈ entry.1 then some (.invalidKey entry.1)
  else if '\x00' ∈ entry.2 then some (.invalidValue entry.1)
  else none

def encodeEntry (entry : Text × Text) : Bytes :=
  Utf8.encode entry.1 ++ 0x3D :: Utf8.encode entry.2 ++ [0]

def region (data : LaunchData) : Bytes := data.entries.flatMap encodeEntry

/-- The stored form, or the error of the first entry that has none. -/
def encode (data : LaunchData) : Except Error Bytes :=
  match data.entries.findSome? entryError? with
  | some error => .error error
  | none => .ok (data.region ++ littleEndian sizeBytes data.region.length)

/-- Reads the bytes of one entry, which start at `offset`. -/
def decodeEntry (offset : Nat) (bytes : Bytes) : Except Error (Text × Text) :=
  match cutFirst 0x3D bytes with
  | none => .error (.missingSeparator offset)
  | some (key, value) =>
    match Utf8.decode key with
    | none => .error (.invalidUtf8 offset)
    | some key' =>
      match Utf8.decode value with
      | none => .error (.invalidUtf8 (offset + key.length + 1))
      | some value' => .ok (key', value')

/-- Reads entries up to the end of the bytes. An entry that started at `offset` has the bytes
`begun` so far. -/
def readEntries (offset : Nat) (begun : Bytes) (found : LaunchData) :
    Bytes → Except Error LaunchData
  | [] =>
    if begun = [] then .ok found
    else do
      let entry ← decodeEntry offset begun
      .ok (found.insert entry.1 entry.2)
  | b :: rest =>
    if b = 0 then do
      let entry ← decodeEntry offset begun
      readEntries (offset + begun.length + 1) [] (found.insert entry.1 entry.2) rest
    else readEntries offset (begun ++ [b]) found rest

/-- Reads the launch data at the end of a binary. Of entries with one key the last counts. -/
def parse (bytes : Bytes) : Except Error LaunchData :=
  if bytes.length < sizeBytes then .error (.invalidSize 0 bytes.length)
  else
    let before := bytes.length - sizeBytes
    let size := Signed64.ofWord (ofLittleEndian (bytes.drop before))
    if 0 ≤ size ∧ size ≤ before then
      let start := before - size.toNat
      readEntries start [] empty ((bytes.take before).drop start)
    else .error (.invalidSize size bytes.length)

def ofBinary (fs : FileSystem) (path : Path) : Except Error LaunchData :=
  match fs.read path with
  | .error cause => .error (.io path cause)
  | .ok bytes =>
    if bytes.length < sizeBytes then .error (.truncated path bytes.length) else parse bytes

/-- Adds the stored form to a binary. Data that has none leaves the binary alone. -/
def appendTo (data : LaunchData) (fs : FileSystem) (path : Path) : Except Error FileSystem :=
  match data.encode with
  | .error error => .error error
  | .ok bytes =>
    match fs.append path bytes with
    | .error cause => .error (.io path cause)
    | .ok fs => .ok fs

end RuntimeLauncher.LaunchData
