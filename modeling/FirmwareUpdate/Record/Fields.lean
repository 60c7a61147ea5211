import FirmwareUpdate.Record.Skip
import FirmwareUpdate.Text.Shown

/-!
# Records

A record is written as an object whose fields may come in any order and among others, or as a
list of the fields in the order of the format. A field that the format lets miss keeps the
value of the draft that reading starts from.
-/

namespace FirmwareUpdate.Record

variable {α ρ : Type}

/-- A field of a record: its name, whether it may miss, and how its value changes a draft. -/
structure Field (ρ : Type) where
  name : String
  mayMiss : Bool := false
  read : Reader (ρ → ρ)

/-- The field whose value is read by `reader` and put into a draft by `change`. -/
def Field.of (name : String) (reader : Reader α) (change : α → ρ → ρ) : Field ρ :=
  { name, read := change <$> reader }

/-- A record's title and its fields in order. -/
structure Format (ρ : Type) where
  title : String
  fields : List (Field ρ)

/-- Fails because of the value that comes next. A list or an object is not looked into. -/
def wrong (expected : String) : Reader α := .placed do
  let wrongType {α : Type} (found : Found) : Reader α :=
    .failUnplaced (.wrongType found expected)
  match ← Reader.peek with
  | none => .failAhead .valueMissing
  | some b =>
    match Char.ofNat b.toNat with
    | 'n' =>
      Reader.word (utf8 "null")
      wrongType .null
    | 't' =>
      Reader.word (utf8 "true")
      wrongType (.flag true)
    | 'f' =>
      Reader.word (utf8 "false")
      wrongType (.flag false)
    | '-' =>
      Reader.drop
      wrongType (← Number.read false).found
    | '\"' =>
      Reader.drop
      wrongType (.quoted (Text.shown (← Quoted.text)))
    | '[' => wrongType .list
    | '\x7b' => wrongType .object
    | _ =>
      if Reader.digits.isDigit b then wrongType (← Number.read true).found
      else .failAhead .valueMissing

/-- The text that comes next. -/
def readText : Reader String := do
  match ← Reader.peekVisible with
  | none => .failAhead .endInValue
  | some b =>
    if b = Quoted.quote then
      Reader.drop
      Quoted.text
    else wrong "a string"

/-- The natural number below `bound` that comes next; `name` is the name of this range. -/
def readNatural (bound : Nat) (name : String) : Reader Nat := .placed do
  match ← Reader.peekVisible with
  | none => .failAhead .endInValue
  | some b =>
    if b = 45 then
      Reader.drop
      accept (← Number.read false)
    else if Reader.digits.isDigit b then accept (← Number.read true)
    else wrong name
where
  /-- The number, if it is in the range. -/
  accept : Number → Reader Nat
    | .integer value =>
      if 0 ≤ value ∧ value < bound then return value.toNat
      else .failUnplaced (.wrongNumber value name)
    | .fraction value => .failUnplaced (.wrongType (Number.fraction value).found name)

/-- The truth value that comes next. -/
def readFlag : Reader Bool := do
  match ← Reader.peekVisible with
  | none => .failAhead .endInValue
  | some 116 =>
    Reader.word (utf8 "true")
    return true
  | some 102 =>
    Reader.word (utf8 "false")
    return false
  | some _ => wrong "a boolean"

/-- Consumes the colon after a key. -/
def readColon : Reader Unit := do
  match ← Reader.peekVisible with
  | none => .failAhead (.endInFrame .object)
  | some b => if b = 58 then Reader.drop else .failAhead .colonMissing

/-- Consumes what precedes the next element of a list or the next key of an object; false if
the list or object ends instead. -/
def hasNext (frame : Frame) (isFirst : Bool) : Reader Bool := do
  match ← Reader.peekVisible with
  | none => .failAhead (.endInFrame frame)
  | some b =>
    if b = frame.closing then return false
    else if isFirst then return true
    else if b = 44 then
      Reader.drop
      match ← Reader.peekVisible with
      | none => .failAhead .endInValue
      | some b => if b = frame.closing then .failAhead .trailingComma else return true
    else .failAhead (.commaOrEndMissing frame)

/-- The key that comes next. -/
def readKey : Reader String := do
  if (← Reader.peek) == some Quoted.quote then
    Reader.drop
    Quoted.text
  else .failAhead .keyNotText

/-- Consumes the end of a list or an object. -/
def readEnd (frame : Frame) : Reader Unit := do
  match ← Reader.peekVisible with
  | none => .failAhead (.endInFrame frame)
  | some b =>
    if b = frame.closing then Reader.drop
    else if b = 44 then
      match frame with
      | .object => .failAhead .trailingComma
      | .list =>
        Reader.drop
        if (← Reader.peekVisible) == some frame.closing then .failAhead .trailingComma
        else .failAhead .trailingCharacters
    else .failAhead .trailingCharacters

namespace Format

/-- What a list of the wrong length is compared with. -/
def expectation (format : Format ρ) : String :=
  s!"{format.title} with {format.fields.length} elements"

/-- The draft with the elements of a list, which are the given fields from `index` on. -/
def readElements (format : Format ρ) : List (Field ρ) → (index : Nat) → ρ → Reader ρ
  | [], _, draft => return draft
  | field :: rest, index, draft => do
    if ← hasNext .list (index == 0) then
      let change ← field.read
      readElements format rest (index + 1) (change draft)
    else if field.mayMiss then readElements format rest (index + 1) draft
    else .failUnplaced (.wrongLength index format.expectation)

/-- The draft with the fields of an object, in at most `count` steps, and the names of the
fields that were read. -/
def readEntries (format : Format ρ) :
    (count : Nat) → (isFirst : Bool) → List String → ρ → Reader (List String × ρ)
  | 0, _, seen, draft => return (seen, draft)
  | count + 1, isFirst, seen, draft => do
    if ← hasNext .object isFirst then
      let key ← readKey
      match format.fields.find? (·.name == key) with
      | none =>
        readColon
        skipValue
        readEntries format count false seen draft
      | some field =>
        if seen.contains key then .failUnplaced (.duplicateField key)
        else
          readColon
          let change ← field.read
          readEntries format count false (key :: seen) (change draft)
    else return (seen, draft)

/-- The draft with the fields of an object, which has all fields that must not miss. -/
def readObject (format : Format ρ) (draft : ρ) : Reader ρ := do
  let (seen, draft) ← format.readEntries ((← get).length + 1) true [] draft
  match format.fields.find? fun field => !field.mayMiss && !seen.contains field.name with
  | some field => .failUnplaced (.missingField field.name)
  | none => return draft

/-- What stands within a list or an object, and then its end. A failure within goes before one
at the end. -/
def enclosed (frame : Frame) (inner : Reader α) : Reader α := do
  Reader.drop
  let content ← inner.attempt
  let ending ← (readEnd frame).attempt
  match content, ending with
  | .ok a, .ok () => return a
  | .error failure, _ => throw failure
  | _, .error failure => throw failure

/-- The record that comes next, read into a draft. -/
def read (format : Format ρ) (draft : ρ) : Reader ρ := .placed do
  match ← Reader.peekVisible with
  | none => .failAhead .endInValue
  | some 91 => enclosed .list (format.readElements format.fields 0 draft)
  | some 123 => enclosed .object (format.readObject draft)
  | some _ => wrong format.title

/-- The record that a whole text describes. -/
def readAll (format : Format ρ) (draft : ρ) (text : Bytes) : Except Failure ρ :=
  (whole.run text).1
where
  /-- The record, and nothing after it. -/
  whole : Reader ρ := do
    let record ← format.read draft
    if (← Reader.peekVisible).isSome then .failAhead .trailingCharacters
    else return record

end Format

end FirmwareUpdate.Record
