import FirmwareUpdate.Record.Reader
import FirmwareUpdate.Text.Hex

/-!
# Quoted texts

A text stands between double quotes. Within it a backslash starts an escape; an escape with
four hexadecimal digits names a UTF-16 unit, and a character above the basic plane takes two
of them. Control characters have to be escaped.
-/

namespace FirmwareUpdate.Record.Quoted

/-- The double quote. -/
def quote : UInt8 := 34

/-- The backslash. -/
def backslash : UInt8 := 92

/-- The value of a hexadecimal digit. -/
def hexDigit? (b : UInt8) : Option Nat :=
  if 48 ≤ b && b ≤ 57 then some (b.toNat - 48)
  else if 97 ≤ b && b ≤ 102 then some (b.toNat - 87)
  else if 65 ≤ b && b ≤ 70 then some (b.toNat - 55)
  else none

/-- The unit that four hexadecimal digits name. -/
def unit? (a b c d : UInt8) : Option Nat := do
  return (← hexDigit? a) * 0x1000 + (← hexDigit? b) * 0x100 + (← hexDigit? c) * 0x10
    + (← hexDigit? d)

/-- The four hexadecimal digits that come next, as a unit. -/
def unit : Reader Nat := do
  match ← get with
  | a :: b :: c :: d :: rest =>
    set rest
    match unit? a b c d with
    | some n => return n
    | none => .fail .unknownEscape
  | _ =>
    set ([] : Bytes)
    .fail .endInText

/-- The byte that a letter after a backslash stands for. -/
def letterEscape? (b : UInt8) : Option UInt8 :=
  match Char.ofNat b.toNat with
  | '\"' => some 34
  | '\\' => some 92
  | '/' => some 47
  | 'b' => some 8
  | 'f' => some 12
  | 'n' => some 10
  | 'r' => some 13
  | 't' => some 9
  | _ => none

/-- Whether a unit is the first of two. -/
def isHigh (unit : Nat) : Bool := 0xD800 ≤ unit && unit ≤ 0xDBFF

/-- Whether a unit is the second of two. -/
def isLow (unit : Nat) : Bool := 0xDC00 ≤ unit && unit ≤ 0xDFFF

/-- Consumes the byte that has to come before the second of two units. -/
def demand (b : UInt8) : Reader Unit := do
  match ← Reader.next with
  | none => .fail .endInText
  | some c => if c = b then return () else .fail .unfinishedSurrogate

/-- The character of an escape, after the letter u. -/
def unicodeEscape : Reader Char := do
  let first ← unit
  if isLow first then .fail .loneSurrogate
  else if isHigh first then
    demand backslash
    demand 117
    let second ← unit
    if isLow second then
      return Char.ofNat ((first - 0xD800) * 0x400 + (second - 0xDC00) + 0x10000)
    else .fail .loneSurrogate
  else return Char.ofNat first

/-- The bytes of an escape, after the backslash. -/
def escape : Reader Bytes := do
  match ← Reader.next with
  | none => .fail .endInText
  | some 117 => return Utf8.encode [← unicodeEscape]
  | some b =>
    match letterEscape? b with
    | some c => return [c]
    | none => .fail .unknownEscape

/-- The bytes up to the closing quote, of which at most `count` steps are read, in front of
the ones that `before` holds in reverse. -/
def contentFrom : (count : Nat) → (before : Bytes) → Reader Bytes
  | 0, _ => .fail .endInText
  | count + 1, before => do
    match ← Reader.next with
    | none => .fail .endInText
    | some b =>
      if b = quote then return before.reverse
      else if b = backslash then contentFrom count ((← escape).reverse ++ before)
      else if b < 32 then .fail .controlCharacter
      else contentFrom count (b :: before)

/-- The text after an opening quote. -/
def text : Reader String := do
  let content ← contentFrom ((← get).length + 1) []
  match Utf8.decode? content with
  | some cs => return String.ofList cs
  | none => .fail .malformedCharacter

/-- Skips the bytes up to the closing quote, at most `count` steps. -/
def skipFrom : (count : Nat) → Reader Unit
  | 0 => .fail .endInText
  | count + 1 => do
    match ← Reader.peek with
    | none => .fail .endInText
    | some b =>
      if b = quote then Reader.drop
      else if b = backslash then
        Reader.drop
        skipEscape
        skipFrom count
      else if b < 32 then .fail .controlCharacter
      else
        Reader.drop
        skipFrom count
where
  /-- Skips an escape, after the backslash. -/
  skipEscape : Reader Unit := do
    match ← Reader.next with
    | none => .fail .endInText
    | some 117 => discard unit
    | some b => if (letterEscape? b).isSome then return () else .fail .unknownEscape

/-- Skips the text after an opening quote. -/
def skip : Reader Unit := do
  skipFrom ((← get).length + 1)

/-- How a character is written between quotes. -/
def encodeChar (c : Char) : List Char :=
  match c with
  | '\"' => ['\\', '\"']
  | '\\' => ['\\', '\\']
  | '\x08' => ['\\', 'b']
  | '\x0c' => ['\\', 'f']
  | '\n' => ['\\', 'n']
  | '\r' => ['\\', 'r']
  | '\t' => ['\\', 't']
  | c => if c.toNat < 32 then ['\\', 'u', '0', '0'] ++ Hex.pair (UInt8.ofNat c.toNat) else [c]

/-- The quoted form of a text. -/
def encode (text : String) : String :=
  String.ofList ('\"' :: text.toList.flatMap encodeChar ++ ['\"'])

end FirmwareUpdate.Record.Quoted
