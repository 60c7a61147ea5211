import FirmwareUpdate.Log
import FirmwareUpdate.Text.Blank
import FirmwareUpdate.Text.Decimal
import FirmwareUpdate.Text.Split
import FirmwareUpdate.Text.Utf8

/-!
# Metadata

The metadata file announces a firmware version on the server. It has one `KEY=value` entry on
a line; the order of the lines does not matter, and lines with other keys are disregarded. Of
several entries with one key the last one counts, except that a path which is empty or too
long does not replace an earlier one.
-/

namespace FirmwareUpdate

/-- The number of bytes a firmware path may have. -/
def maxPathSize : Nat := 256

/-- A path of an image on the server. -/
structure ImagePath where
  text : String
  size_le : text.utf8ByteSize ≤ maxPathSize
deriving DecidableEq, Repr

/-- The path with the given text, if it is not too long. -/
def ImagePath.ofString? (text : String) : Option ImagePath :=
  if h : text.utf8ByteSize ≤ maxPathSize then some ⟨text, h⟩ else none

/-- The announcement of a firmware version. -/
structure Metadata where
  version : Option UInt32 := none
  file : Option ImagePath := none
  interval : Option UInt32 := none
deriving DecidableEq, Repr

namespace Metadata

/-- What a line of the file says. -/
inductive Entry
  | version (number : Option UInt32)
  | interval (seconds : Option UInt32)
  | file (path : ImagePath)
  | overlongFile
  | nothing
deriving DecidableEq, Repr

/-- The number in front of a value: its leading digits after any blanks. -/
def number (value : List Char) : Option UInt32 :=
  (Text.readLeadingBelow? UInt32.size (Text.trimStart value)).map UInt32.ofNat

/-- What a line says: the part up to the first equality sign is the key, and the rest is the
value. -/
def readEntry (line : List Char) : Entry :=
  match Text.splitOnce '=' (Text.trim line) with
  | none => .nothing
  | some (key, value) =>
    match String.ofList (Text.trim key) with
    | "VERSION" => .version (number value)
    | "INTERVAL" => .interval (number value)
    | "FILE" =>
      let path := Text.trim value
      if path.isEmpty then .nothing
      else
        match ImagePath.ofString? (String.ofList path) with
        | some path => .file path
        | none => .overlongFile
    | _ => .nothing

/-- The metadata with one more entry. -/
def record (metadata : Metadata) : Entry → Metadata
  | .version number => { metadata with version := number }
  | .interval seconds => { metadata with interval := seconds }
  | .file path => { metadata with file := some path }
  | .overlongFile => metadata
  | .nothing => metadata

/-- The entries of a file. -/
def entries (body : Bytes) : List Entry :=
  (Text.lines (Utf8.decodeLossy body)).map readEntry

/-- The metadata in a file. -/
def parse (body : Bytes) : Metadata :=
  (entries body).foldl record {}

/-- What is reported about a file: each path that is too long. -/
def parseNotes (body : Bytes) : List Note :=
  (entries body).filterMap fun entry =>
    if entry = .overlongFile then
      some ⟨"metadata", .warn, s!"FILE= entry longer than {maxPathSize} bytes ignored"⟩
    else none

/-- The text of a file with the given metadata. -/
def render (metadata : Metadata) : String :=
  let version := metadata.version.elim "" fun n => s!"VERSION={n}\n"
  let file := metadata.file.elim "" fun path => s!"FILE={path.text}\n"
  let interval := metadata.interval.elim "" fun n => s!"INTERVAL={n}\n"
  version ++ file ++ interval

end Metadata

end FirmwareUpdate
