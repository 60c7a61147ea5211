import FirmwareUpdate.Fault
import FirmwareUpdate.Text.Blank
import FirmwareUpdate.Text.Decimal
import FirmwareUpdate.Text.Split
import FirmwareUpdate.Text.Utf8

/-!
# Response heads

The head of a response is its status line and its header lines. It is accepted if the major
version is one, the status is 200, and the first header line named Content-Length has a
number below 2⁶⁴; the defects are looked for in that order.
-/

namespace FirmwareUpdate

/-- What is known from an accepted head. -/
structure Head where
  major : UInt32
  minor : UInt32
  status : UInt16
  contentLength : UInt64
deriving DecidableEq, Repr

namespace Head

/-- What ends a head. -/
def terminator : Bytes := [13, 10, 13, 10]

/-- What a status line starts with. -/
def versionMark : List Char := "HTTP/".toList

/-- The number below 2³² a text denotes. -/
def number32? (text : List Char) : Option UInt32 :=
  (Text.readBelow? UInt32.size text).map UInt32.ofNat

/-- The version and the status in a status line. What follows the status is disregarded. -/
def readStatusLine (line : List Char) : Option (UInt32 × UInt32 × UInt16) := do
  let rest ← versionMark.isPrefixOf? line
  match Text.words rest with
  | version :: code :: _ =>
    let (major, minor) ← Text.splitOnce '.' version
    let major ← number32? major
    let minor ← number32? minor
    let status ← Text.readBelow? UInt16.size code
    return (major, minor, UInt16.ofNat status)
  | _ => none

/-- Whether a header line's name is the one of the length. -/
def isLengthName (name : List Char) : Bool :=
  (Text.trim name).map Char.toLower == "content-length".toList

/-- The length that the header lines declare: the value of the first line with its name. -/
def declaredLength? (lines : List (List Char)) : Option UInt64 := do
  let headers := lines.filterMap (Text.splitOnce ':')
  let (_, value) ← headers.find? fun (name, _) => isLengthName name
  let n ← Text.readBelow? UInt64.size (Text.trim value)
  return UInt64.ofNat n

/-- The head that a text spells. -/
def ofText (text : List Char) : Except ProtocolFault Head :=
  match Text.splitHead text with
  | [] => .error .invalidStatusLine
  | line :: headers =>
    match readStatusLine line with
    | none => .error .invalidStatusLine
    | some (major, minor, status) =>
      if major ≠ 1 then .error (.versionNotSupported major.toNat)
      else if status ≠ 200 then .error (.nonOkStatus status.toNat)
      else
        match declaredLength? headers with
        | none => .error .missingContentLength
        | some contentLength => .ok ⟨major, minor, status, contentLength⟩

/-- The head that the bytes in front of the terminator spell. -/
def ofBytes (bytes : Bytes) : Except ProtocolFault Head :=
  ofText (Utf8.decodeLossy bytes)

end Head

end FirmwareUpdate
