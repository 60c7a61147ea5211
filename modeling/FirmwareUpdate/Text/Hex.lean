import FirmwareUpdate.Text.Decimal
import FirmwareUpdate.Text.Split
import FirmwareUpdate.Text.Utf8

/-!
# Bytes in hexadecimal

Bytes are shown as pairs of lowercase digits, on their own or as the lines of a dump with
sixteen bytes each and their printable characters beside them.
-/

namespace FirmwareUpdate.Hex

/-- The two lowercase hexadecimal digits of a byte. -/
def pair (b : UInt8) : List Char :=
  [Nat.digitChar (b.toNat / 16), Nat.digitChar (b.toNat % 16)]

/-- The hexadecimal digits of a byte sequence. -/
def encode (bytes : Bytes) : String :=
  String.ofList (bytes.flatMap pair)

/-- The value of a hexadecimal digit, lowercase or uppercase. -/
def digit? (c : Char) : Option Nat :=
  if c.isDigit then some (c.toNat - '0'.toNat)
  else if 'a' ≤ c ∧ c ≤ 'f' then some (c.toNat - 'a'.toNat + 10)
  else if 'A' ≤ c ∧ c ≤ 'F' then some (c.toNat - 'A'.toNat + 10)
  else none

/-- The bytes that pairs of hexadecimal digits stand for. -/
def decode? : List Char → Option Bytes
  | [] => some []
  | [_] => none
  | high :: low :: rest => do
    return UInt8.ofNat (16 * (← digit? high) + (← digit? low)) :: (← decode? rest)

/-- The character that shows a byte in the last column of a dump: itself if it is printable
ASCII, and a dot otherwise. -/
def visible (b : UInt8) : Char :=
  if 32 ≤ b && b < 127 then Char.ofNat b.toNat else '.'

/-- One line of a dump: the pairs, filled up to the width of sixteen of them, two blanks and
the visible characters. -/
def dumpLine (row : Bytes) : String :=
  let digits := " ".intercalate (row.map fun b => String.ofList (pair b))
  digits ++ String.ofList (List.replicate (47 - digits.length) ' ') ++ "  "
    ++ String.ofList (row.map visible)

/-- The lines of a dump. -/
def dump (bytes : Bytes) : List String :=
  (Text.rows 16 bytes).map dumpLine

end FirmwareUpdate.Hex
