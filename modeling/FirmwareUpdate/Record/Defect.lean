import FirmwareUpdate.Text.Utf8

/-!
# Defects of a record's text

What can be wrong with the JSON text of a record: it ends too early, it breaks the syntax, or
it does not describe the record that is wanted. A failure also tells how many bytes were left
to read, from which its line and column follow.
-/

namespace FirmwareUpdate.Record

/-- The value that a text has where another one is wanted. -/
inductive Found
  | null
  | flag (value : Bool)
  | integer (value : Int)
  | fraction (text : String)
  | quoted (shown : String)
  | list
  | object
deriving DecidableEq, Repr

/-- How a found value is named. -/
def Found.name : Found → String
  | null => "null"
  | flag value => s!"boolean \x60{value}\x60"
  | integer value => s!"integer \x60{value}\x60"
  | fraction text => s!"floating point \x60{text}\x60"
  | quoted shown => s!"string {shown}"
  | list => "sequence"
  | object => "map"

/-- A list or an object that is not closed yet. -/
inductive Frame
  | list
  | object
deriving DecidableEq, Repr

/-- What is wrong with a text. -/
inductive Defect
  | endInFrame (frame : Frame)
  | endInText
  | endInValue
  | colonMissing
  | commaOrEndMissing (frame : Frame)
  | unknownWord
  | valueMissing
  | unknownEscape
  | malformedNumber
  | numberTooLarge
  | malformedCharacter
  | controlCharacter
  | keyNotText
  | loneSurrogate
  | unfinishedSurrogate
  | trailingComma
  | trailingCharacters
  | missingField (name : String)
  | duplicateField (name : String)
  | wrongType (found : Found) (expected : String)
  | wrongNumber (number : Int) (expected : String)
  | wrongLength (length : Nat) (expected : String)
deriving DecidableEq, Repr

/-- The three kinds of defects. -/
inductive Category
  | ended
  | syntactic
  | data
deriving DecidableEq, Repr

namespace Defect

/-- The kind of a defect. -/
def category : Defect → Category
  | endInFrame _ | endInText | endInValue => .ended
  | missingField _ | duplicateField _ | wrongType _ _ | wrongNumber _ _ | wrongLength _ _ =>
    .data
  | _ => .syntactic

/-- The sentence for a defect. -/
def message : Defect → String
  | endInFrame .list => "EOF while parsing a list"
  | endInFrame .object => "EOF while parsing an object"
  | endInText => "EOF while parsing a string"
  | endInValue => "EOF while parsing a value"
  | colonMissing => "expected \x60:\x60"
  | commaOrEndMissing .list => "expected \x60,\x60 or \x60]\x60"
  | commaOrEndMissing .object => "expected \x60,\x60 or \x60\x7d\x60"
  | unknownWord => "expected ident"
  | valueMissing => "expected value"
  | unknownEscape => "invalid escape"
  | malformedNumber => "invalid number"
  | numberTooLarge => "number out of range"
  | malformedCharacter => "invalid unicode code point"
  | controlCharacter =>
    "control character (\\u0000-\\u001F) found while parsing a string"
  | keyNotText => "key must be a string"
  | loneSurrogate => "lone leading surrogate in hex escape"
  | unfinishedSurrogate => "unexpected end of hex escape"
  | trailingComma => "trailing comma"
  | trailingCharacters => "trailing characters"
  | missingField name => s!"missing field \x60{name}\x60"
  | duplicateField name => s!"duplicate field \x60{name}\x60"
  | wrongType found expected => s!"invalid type: {found.name}, expected {expected}"
  | wrongNumber number expected =>
    s!"invalid value: integer \x60{number}\x60, expected {expected}"
  | wrongLength length expected => s!"invalid length {length}, expected {expected}"

end Defect

/-- A defect and, once its place is known, the number of bytes that were left. -/
structure Failure where
  defect : Defect
  left : Option Nat
deriving DecidableEq, Repr

/-- The line and the column of a place with `offset` bytes in front of it. Lines are counted
from one; the column is the number of bytes since the line's start. -/
def placeOf (text : Bytes) (offset : Nat) : Nat × Nat :=
  let before := text.take offset
  (before.count 10 + 1, (before.reverse.takeWhile (· != 10)).length)

/-- The sentence for a failure in a text, with its place. -/
def Failure.message (text : Bytes) (failure : Failure) : String :=
  match failure.left with
  | none => failure.defect.message
  | some left =>
    let (line, column) := placeOf text (text.length - left)
    s!"{failure.defect.message} at line {line} column {column}"

end FirmwareUpdate.Record
