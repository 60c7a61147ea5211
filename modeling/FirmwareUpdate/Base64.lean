import FirmwareUpdate.Text.Utf8

/-!
# Base64

The standard alphabet with canonical padding: the text is filled up to a multiple of four
symbols, and the bits that the last symbol does not use are zero. So every byte sequence has
exactly one text. The defects say where a text departs from that.
-/

namespace FirmwareUpdate.Base64

/-- The sign that fills up the last group. -/
def pad : UInt8 := 61

/-- The symbol for a number below 64. -/
def symbol (n : Nat) : UInt8 :=
  if n < 26 then UInt8.ofNat (65 + n)
  else if n < 52 then UInt8.ofNat (71 + n)
  else if n < 62 then UInt8.ofNat (n - 4)
  else if n = 62 then 43
  else 47

/-- The number a symbol stands for. -/
def value? (b : UInt8) : Option Nat :=
  if 65 ≤ b && b ≤ 90 then some (b.toNat - 65)
  else if 97 ≤ b && b ≤ 122 then some (b.toNat - 71)
  else if 48 ≤ b && b ≤ 57 then some (b.toNat + 4)
  else if b == 43 then some 62
  else if b == 47 then some 63
  else none

/-- The text of a byte sequence. -/
def encode : Bytes → Bytes
  | [] => []
  | [a] => [symbol (a.toNat / 4), symbol (a.toNat % 4 * 16), pad, pad]
  | [a, b] =>
    [symbol (a.toNat / 4), symbol (a.toNat % 4 * 16 + b.toNat / 16),
      symbol (b.toNat % 16 * 4), pad]
  | a :: b :: c :: rest =>
    symbol (a.toNat / 4) :: symbol (a.toNat % 4 * 16 + b.toNat / 16)
      :: symbol (b.toNat % 16 * 4 + c.toNat / 64) :: symbol (c.toNat % 64) :: encode rest

/-- What is wrong with a text. -/
inductive Defect
  | invalidByte (byte : UInt8) (offset : Nat)
  | lengthRemainder
  | invalidLastSymbol (byte : UInt8) (offset : Nat)
  | invalidPadding
deriving DecidableEq, Repr

/-- The sentence for a defect. -/
def Defect.message : Defect → String
  | invalidByte byte offset => s!"Invalid byte {byte}, offset {offset}."
  | lengthRemainder => "Encoded text cannot have a 6-bit remainder."
  | invalidLastSymbol byte offset => s!"Invalid last symbol {byte}, offset {offset}."
  | invalidPadding => "Invalid padding"

/-- The numbers of the symbols in front of the padding, and how many padding signs follow.
The text is read from `offset` on, and its last group of eight starts at offset `group`. Once
`firstPad` is set, which is where the padding started, only padding may follow. -/
def symbols (group : Nat) : (offset : Nat) → (firstPad : Option Nat) → (padCount : Nat) →
    Bytes → Except Defect (List (Nat × UInt8) × Nat)
  | _, _, padCount, [] => .ok ([], padCount)
  | offset, firstPad, padCount, b :: rest =>
    if group ≤ offset && b == pad then
      if (offset - group) % 4 < 2 then .error (.invalidByte pad (firstPad.getD offset))
      else symbols group (offset + 1) (some (firstPad.getD offset)) (padCount + 1) rest
    else
      match firstPad, value? b with
      | some first, _ => .error (.invalidByte pad first)
      | none, none => .error (.invalidByte b offset)
      | none, some n => do
        let (more, count) ← symbols group (offset + 1) none padCount rest
        .ok ((n, b) :: more, count)

/-- The bytes of a run of six-bit numbers; the bits left over at its end are not used. -/
def pack : List Nat → Bytes
  | a :: b :: c :: d :: rest =>
    UInt8.ofNat (a * 4 + b / 16) :: UInt8.ofNat (b % 16 * 16 + c / 4)
      :: UInt8.ofNat (c % 4 * 64 + d) :: pack rest
  | [a, b, c] => [UInt8.ofNat (a * 4 + b / 16), UInt8.ofNat (b % 16 * 16 + c / 4)]
  | [a, b] => [UInt8.ofNat (a * 4 + b / 16)]
  | _ => []

/-- The low bits of the last of `count` numbers that no byte uses. -/
def unusedBits (count last : Nat) : Nat :=
  match count % 4 with
  | 2 => last % 16
  | 3 => last % 4
  | _ => 0

/-- The byte sequence a text stands for. -/
def decode (text : Bytes) : Except Defect Bytes :=
  let size := text.length
  match size % 4, text.getLast? with
  | 1, some last =>
    if last != pad && (value? last).isNone then .error (.invalidByte last (size - 1))
    else .error .lengthRemainder
  | _, _ => do
    let group := (size - 1) / 8 * 8
    let (numbers, padCount) ← symbols group 0 none 0 text
    if (numbers.length + padCount) % 4 != 0 then .error .invalidPadding
    else
      match numbers.getLast? with
      | some (last, byte) =>
        if unusedBits numbers.length last != 0 then
          .error (.invalidLastSymbol byte (numbers.length - 1))
        else .ok (pack (numbers.map (·.1)))
      | none => .ok []

end FirmwareUpdate.Base64
