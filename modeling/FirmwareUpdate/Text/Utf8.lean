/-!
# UTF-8

Bytes are read as UTF-8 one by one. Where they are ill-formed, each maximal piece that starts
a character and is not continued stands for one failure, which the lossy reading replaces by
the replacement character and the strict reading refuses.
-/

namespace FirmwareUpdate

/-- A sequence of bytes. -/
abbrev Bytes := List UInt8

namespace Utf8

/-- A character of which the first bytes have been read: the bits so far, the range the next
byte has to lie in, and the number of bytes due after it. -/
structure Pending where
  bits : Nat
  low : UInt8
  high : UInt8
  due : Nat
deriving DecidableEq, Repr

/-- What a byte starts: a character of its own, a longer one, or nothing. -/
inductive Start
  | whole (c : Char)
  | first (pending : Pending)
  | stray
deriving DecidableEq, Repr

/-- What the byte `b` starts. The ranges leave out overlong forms, surrogates and everything
above the last code point. -/
def start (b : UInt8) : Start :=
  if b < 0x80 then .whole (Char.ofNat b.toNat)
  else if b < 0xC2 then .stray
  else if b < 0xE0 then .first ⟨b.toNat - 0xC0, 0x80, 0xBF, 0⟩
  else if b == 0xE0 then .first ⟨0, 0xA0, 0xBF, 1⟩
  else if b == 0xED then .first ⟨13, 0x80, 0x9F, 1⟩
  else if b < 0xF0 then .first ⟨b.toNat - 0xE0, 0x80, 0xBF, 1⟩
  else if b == 0xF0 then .first ⟨0, 0x90, 0xBF, 2⟩
  else if b < 0xF4 then .first ⟨b.toNat - 0xF0, 0x80, 0xBF, 2⟩
  else if b == 0xF4 then .first ⟨4, 0x80, 0x8F, 2⟩
  else .stray

/-- What is read when a byte starts something new, and the character that the next one
continues. -/
def begin (b : UInt8) : List (Option Char) × Option Pending :=
  match start b with
  | .whole c => ([some c], none)
  | .first p => ([], some p)
  | .stray => ([none], none)

/-- What is read with a byte, and the character that the next byte continues, where `pending` is
the one that this byte continues. -/
def advance (pending : Option Pending) (b : UInt8) : List (Option Char) × Option Pending :=
  match pending with
  | none => begin b
  | some p =>
    if p.low ≤ b && b ≤ p.high then
      let bits := p.bits * 64 + (b.toNat - 0x80)
      match p.due with
      | 0 => ([some (Char.ofNat bits)], none)
      | due + 1 => ([], some ⟨bits, 0x80, 0xBF, due⟩)
    else
      let (read, pending) := begin b
      (none :: read, pending)

/-- The characters of a byte sequence, with `none` for each ill-formed piece, where `pending`
is the character that the bytes continue. -/
def decodeFrom : (pending : Option Pending) → Bytes → List (Option Char)
  | none, [] => []
  | some _, [] => [none]
  | pending, b :: rest =>
    let (read, pending) := advance pending b
    read ++ decodeFrom pending rest

/-- The text of a byte sequence, with the replacement character for each ill-formed piece. -/
def decodeLossy (bytes : Bytes) : List Char :=
  (decodeFrom none bytes).map (·.getD '\uFFFD')

/-- The text of a byte sequence that is well-formed throughout. -/
def decode? (bytes : Bytes) : Option (List Char) :=
  (decodeFrom none bytes).mapM id

/-- The bytes of a text. -/
def encode (text : List Char) : Bytes :=
  text.flatMap String.utf8EncodeChar

end Utf8

/-- The bytes of a string. -/
def utf8 (text : String) : Bytes :=
  Utf8.encode text.toList

end FirmwareUpdate
