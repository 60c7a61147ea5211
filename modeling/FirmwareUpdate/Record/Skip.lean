import FirmwareUpdate.Record.Number
import FirmwareUpdate.Record.Quoted

/-!
# Values that are skipped

The value of a field that a record does not have is read only for its syntax. The lists and
objects that are open around a place are kept on a stack, so that the depth of a value does
not matter.
-/

namespace FirmwareUpdate.Record

/-- The byte that closes a list or an object. -/
def Frame.closing : Frame → UInt8
  | list => 93
  | object => 125

/-- Where a skipping reader stands: at the start of a value, or after the start of a list or
object, or after an element of it. -/
inductive SkipPlace
  | value
  | opened (frame : Frame)
  | element (frame : Frame)
deriving DecidableEq, Repr

/-- The place after a value, if it is not the whole. -/
def SkipPlace.after : List Frame → Option (SkipPlace × List Frame)
  | [] => none
  | frame :: outer => some (.element frame, outer)

/-- Consumes the start of a value at its first byte: all of it, or the byte that opens a list
or an object. -/
def skipStart : Option UInt8 → Reader (Option Frame)
  | none => .failAhead .endInValue
  | some b =>
    match Char.ofNat b.toNat with
    | 'n' => scalar (Reader.word (utf8 "null"))
    | 't' => scalar (Reader.word (utf8 "true"))
    | 'f' => scalar (Reader.word (utf8 "false"))
    | '-' => scalar do
      Reader.drop
      Number.skip
    | '\"' => scalar do
      Reader.drop
      Quoted.skip
    | '[' => opening .list
    | '\x7b' => opening .object
    | _ => if Reader.digits.isDigit b then scalar Number.skip else .failAhead .valueMissing
where
  /-- A value that is not a list or an object. -/
  scalar (reader : Reader Unit) : Reader (Option Frame) := do
    reader
    return none
  /-- The start of a list or an object. -/
  opening (frame : Frame) : Reader (Option Frame) := do
    Reader.drop
    return some frame

/-- Consumes the key of the next field of an object and the colon after it. -/
def skipKey : Reader Unit := do
  match ← Reader.peekVisible with
  | none => .failAhead (.endInFrame .object)
  | some b => if b = Quoted.quote then Reader.drop else .failAhead .keyNotText
  Quoted.skip
  match ← Reader.peekVisible with
  | none => .failAhead (.endInFrame .object)
  | some b => if b = 58 then Reader.drop else .failAhead .colonMissing

/-- Consumes what precedes the next value within a list or an object. -/
def skipInto : Frame → Reader Unit
  | .list => return ()
  | .object => skipKey

/-- Skips from a place within the open lists and objects on, in at most `count` steps. -/
def skipFrom : (count : Nat) → SkipPlace → List Frame → Reader Unit
  | 0, _, _ => return ()
  | count + 1, .value, outer => do
    match ← skipStart (← Reader.peekVisible), SkipPlace.after outer with
    | some frame, _ => skipFrom count (.opened frame) outer
    | none, some (place, outer) => skipFrom count place outer
    | none, none => return ()
  | count + 1, .opened frame, outer => do
    match ← Reader.peekVisible with
    | none => .failAhead (.endInFrame frame)
    | some b =>
      if b = frame.closing then
        Reader.drop
        match SkipPlace.after outer with
        | some (place, outer) => skipFrom count place outer
        | none => return ()
      else
        skipInto frame
        skipFrom count .value (frame :: outer)
  | count + 1, .element frame, outer => do
    match ← Reader.peekVisible with
    | none => .failAhead (.endInFrame frame)
    | some b =>
      if b = 44 then
        Reader.drop
        skipInto frame
        skipFrom count .value (frame :: outer)
      else if b = frame.closing then
        Reader.drop
        match SkipPlace.after outer with
        | some (place, outer) => skipFrom count place outer
        | none => return ()
      else .failAhead (.commaOrEndMissing frame)

/-- Skips the value that comes next. Every second step consumes a byte. -/
def skipValue : Reader Unit := do
  skipFrom (2 * (← get).length + 2) .value []

end FirmwareUpdate.Record
