import FirmwareUpdate.Record.Defect

/-!
# Reading a text from left to right

A reader consumes bytes from the front of what is left of a text. When it fails, what it has
consumed stays consumed, so that the place of a failure can be told.
-/

namespace FirmwareUpdate.Record

variable {α : Type}

/-- A reader of a value. -/
abbrev Reader := ExceptT Failure (StateM Bytes)

namespace Reader

/-- Fails here. -/
def fail (defect : Defect) : Reader α := do
  throw ⟨defect, some (← get).length⟩

/-- Fails at the next byte, which counts as reached. -/
def failAhead (defect : Defect) : Reader α := do
  throw ⟨defect, some ((← get).length - 1)⟩

/-- Fails at a place that is to be filled in. -/
def failUnplaced (defect : Defect) : Reader α :=
  throw ⟨defect, none⟩

/-- The result of a reader, be it a value or a failure. -/
def attempt (reader : Reader α) : Reader (Except Failure α) :=
  ExceptT.mk do return .ok (← reader.run)

/-- The reader, where a failure without a place gets the one that is reached. -/
def placed (reader : Reader α) : Reader α := do
  match ← reader.attempt with
  | .ok a => return a
  | .error failure =>
    throw { failure with left := failure.left.or (some (← get).length) }

/-- The next byte, which stays. -/
def peek : Reader (Option UInt8) :=
  return (← get).head?

/-- The next byte, which is consumed. -/
def next : Reader (Option UInt8) := do
  let rest ← get
  set rest.tail
  return rest.head?

/-- Consumes one byte. -/
def drop : Reader Unit :=
  modify List.tail

/-- Whether a byte may stand between the parts of a text. -/
def isSpace (b : UInt8) : Bool :=
  b == 32 || b == 10 || b == 9 || b == 13

/-- The first byte that is not a space, which stays. -/
def peekVisible : Reader (Option UInt8) := do
  modify (List.dropWhile isSpace)
  peek

/-- Consumes the given bytes of a word. -/
def word : Bytes → Reader Unit
  | [] => return ()
  | b :: rest => do
    match ← next with
    | none => fail .endInValue
    | some c => if c = b then word rest else fail .unknownWord

/-- Consumes the digits that come next. -/
def digits : Reader (List Nat) := do
  let (run, rest) := (← get).span isDigit
  set rest
  return run.map fun b => b.toNat - 48
where
  /-- Whether a byte is an ASCII digit. -/
  isDigit (b : UInt8) : Bool := 48 ≤ b && b ≤ 57

end Reader

end FirmwareUpdate.Record
