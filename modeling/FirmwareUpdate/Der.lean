import FirmwareUpdate.Text.Decimal
import FirmwareUpdate.Text.Utf8

/-!
# DER elements

An element is a tag byte, a definite length and that many bytes of content. A length below
128 is one byte; a longer one is a byte that tells how many big-endian bytes follow, one to
four of them. A certificate is taken apart only as far as its public key.
-/

namespace FirmwareUpdate.Der

/-- What is wrong with a byte sequence that should start with an element. -/
inductive Defect
  | truncatedBeforeTag
  | truncatedBeforeLength
  | unsupportedLength
  | truncatedInLength
  | exceedsInput
  | unexpectedTag (role : String) (expected found : UInt8)
deriving DecidableEq, Repr

/-- The sentence for a defect. -/
def Defect.message : Defect → String
  | truncatedBeforeTag => "DER truncated before tag"
  | truncatedBeforeLength => "DER truncated before length"
  | unsupportedLength => "unsupported DER length encoding"
  | truncatedInLength => "DER truncated in length"
  | exceedsInput => "DER element exceeds input"
  | unexpectedTag role expected found =>
    let wanted := Text.padded 16 2 expected.toNat
    let seen := Text.padded 16 2 found.toNat
    s!"{role}: expected DER tag 0x{wanted}, found 0x{seen}"

/-- The tag of a sequence. -/
def sequenceTag : UInt8 := 0x30

/-- The tag of the version field of a certificate. -/
def versionTag : UInt8 := 0xA0

/-- An element: its tag, the bytes that spell its length, and its content. -/
structure Element where
  tag : UInt8
  lengthBytes : Bytes
  content : Bytes
deriving DecidableEq, Repr

/-- The bytes of an element. -/
def Element.raw (e : Element) : Bytes :=
  e.tag :: e.lengthBytes ++ e.content

/-- The number that big-endian bytes spell. -/
def bigEndian (bytes : Bytes) : Nat :=
  bytes.foldl (fun n b => n * 256 + b.toNat) 0

/-- The bytes that spell the length at the start of a sequence, the length, and the bytes
after it. -/
def readLength : Bytes → Except Defect (Bytes × Nat × Bytes)
  | [] => .error .truncatedBeforeLength
  | first :: rest =>
    if first < 0x80 then .ok ([first], first.toNat, rest)
    else
      let count := first.toNat - 0x80
      if count = 0 || 4 < count then .error .unsupportedLength
      else if rest.length < count then .error .truncatedInLength
      else .ok (first :: rest.take count, bigEndian (rest.take count), rest.drop count)

/-- The element at the start of a sequence and the bytes after it. -/
def read : Bytes → Except Defect (Element × Bytes)
  | [] => .error .truncatedBeforeTag
  | tag :: rest => do
    let (lengthBytes, length, rest) ← readLength rest
    if rest.length < length then .error .exceedsInput
    else .ok (⟨tag, lengthBytes, rest.take length⟩, rest.drop length)

/-- The element at the start of a sequence, which must have the given tag. -/
def expect (tag : UInt8) (role : String) (bytes : Bytes) : Except Defect (Element × Bytes) := do
  let (element, rest) ← read bytes
  if element.tag = tag then .ok (element, rest)
  else .error (.unexpectedTag role tag element.tag)

/-- The public key field of a certificate, as it stands there. The version field is present
exactly when the list of fields starts with its tag. -/
def publicKeyInfo (certificate : Bytes) : Except Defect Bytes := do
  let (certificate, _) ← expect sequenceTag "certificate" certificate
  let (signed, _) ← expect sequenceTag "tbsCertificate" certificate.content
  let fields ←
    if signed.content.head? = some versionTag then do
      let (_, fields) ← read signed.content
      pure fields
    else pure signed.content
  let (_, fields) ← read fields
  let (_, fields) ← expect sequenceTag "signature" fields
  let (_, fields) ← expect sequenceTag "issuer" fields
  let (_, fields) ← expect sequenceTag "validity" fields
  let (_, fields) ← expect sequenceTag "subject" fields
  let (key, _) ← expect sequenceTag "subjectPublicKeyInfo" fields
  return key.raw

/-- The shortest spelling of a length below 2³². -/
def lengthSpelling (n : Nat) : Bytes :=
  if n < 0x80 then [UInt8.ofNat n]
  else if n < 0x100 then [0x81, UInt8.ofNat n]
  else if n < 0x10000 then [0x82, UInt8.ofNat (n / 0x100), UInt8.ofNat n]
  else if n < 0x1000000 then
    [0x83, UInt8.ofNat (n / 0x10000), UInt8.ofNat (n / 0x100), UInt8.ofNat n]
  else
    [0x84, UInt8.ofNat (n / 0x1000000), UInt8.ofNat (n / 0x10000), UInt8.ofNat (n / 0x100),
      UInt8.ofNat n]

/-- The element with the given tag and content, its length spelled as shortly as possible. -/
def element (tag : UInt8) (content : Bytes) : Element :=
  ⟨tag, lengthSpelling content.length, content⟩

end FirmwareUpdate.Der
