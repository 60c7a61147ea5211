import FirmwareUpdate.Base64
import FirmwareUpdate.Text.Blank
import FirmwareUpdate.Text.Split

/-!
# PEM blocks

A PEM block wraps bytes as base64 text between a begin line and an end line with the same
label. Reading takes the first block of a text and disregards what stands around it and every
blank within it; writing puts the base64 text on lines of 64 symbols.
-/

namespace FirmwareUpdate.Pem

/-- A labelled byte sequence. -/
structure Block where
  label : List Char
  content : Bytes
deriving DecidableEq, Repr

/-- What is wrong with a text that should hold a block. -/
inductive Defect
  | beginMarkerMissing
  | labelNotTerminated
  | endMarkerMissing (label : List Char)
  | invalidBase64 (cause : Base64.Defect)
deriving DecidableEq, Repr

/-- The sentence for a defect. -/
def Defect.message : Defect → String
  | beginMarkerMissing => "PEM begin marker missing"
  | labelNotTerminated => "PEM label not terminated"
  | endMarkerMissing label => s!"PEM end marker for '{String.ofList label}' missing"
  | invalidBase64 cause => s!"PEM body is not valid base64: {cause.message}"

/-- What a begin line starts with. -/
def beginMark : List Char := "-----BEGIN ".toList

/-- What ends a label. -/
def dashes : List Char := "-----".toList

/-- The end line of a block. -/
def endMark (label : List Char) : List Char :=
  "-----END ".toList ++ label ++ dashes

/-- The first block of a text. -/
def decode (text : List Char) : Except Defect Block := do
  let some (_, rest) := Text.splitAtFirst beginMark text | .error .beginMarkerMissing
  let some (label, rest) := Text.splitAtFirst dashes rest | .error .labelNotTerminated
  let some (body, _) := Text.splitAtFirst (endMark label) rest
    | .error (.endMarkerMissing label)
  match Base64.decode (Utf8.encode (body.filter (!Text.isBlank ·))) with
  | .error cause => .error (.invalidBase64 cause)
  | .ok content => .ok ⟨label, content⟩

/-- The symbols on lines of 64, each ended by a line feed. -/
def wrap (symbols : List Char) : List Char :=
  (Text.rows 64 symbols).flatMap (· ++ ['\n'])

/-- The text of a block. -/
def encode (block : Block) : List Char :=
  beginMark ++ block.label ++ dashes ++ '\n'
    :: wrap ((Base64.encode block.content).map fun b => Char.ofNat b.toNat)
    ++ endMark block.label ++ ['\n']

end FirmwareUpdate.Pem
