import FirmwareUpdate.Der
import FirmwareUpdate.Fault
import FirmwareUpdate.Log
import FirmwareUpdate.Pem
import FirmwareUpdate.Sha256

/-!
# Pinned keys

A pin is the public key a server has to present. Only the key of the presented certificate is
compared, so a certificate that is issued again for the same key stays accepted.
-/

namespace FirmwareUpdate

/-- The public key field that a peer's certificate must carry. -/
structure Pin where
  key : Bytes
deriving DecidableEq, Repr

namespace Pin

/-- The first block of a PEM text. -/
def readBlock (pem : String) : Except Fault Pem.Block :=
  (Pem.decode pem.toList).mapError (.invalidArgument ·.message)

/-- The public key field of a certificate. -/
def keyOfCertificate (certificate : Bytes) : Except Fault Bytes :=
  (Der.publicKeyInfo certificate).mapError (.invalidArgument ·.message)

/-- The pin that a block gives: the key of a certificate, or a key as it stands. Of a key only
the start is checked, which must be a sequence. -/
def ofBlock (block : Pem.Block) : Except Fault Pin :=
  if block.label = "CERTIFICATE".toList then (keyOfCertificate block.content).map Pin.mk
  else if block.label = "PUBLIC KEY".toList then
    match Der.expect Der.sequenceTag "public key" block.content with
    | .error defect => .error (.invalidArgument defect.message)
    | .ok _ => .ok ⟨block.content⟩
  else .error (.invalidArgument s!"unsupported PEM block '{String.ofList block.label}'")

/-- The pin that a PEM text gives. -/
def ofPem (pem : String) : Except Fault Pin := do
  ofBlock (← readBlock pem)

/-- Accepts a peer's certificate exactly when it carries the pinned key. -/
def verify (pin : Pin) (certificate : Bytes) : Except Fault Unit := do
  let actual ← keyOfCertificate certificate
  if actual = pin.key then .ok ()
  else .error (.pinningMismatch pin.key.length actual.length)

/-- What is reported about a peer's certificate: both keys, if they differ. -/
def mismatchNotes (pin : Pin) (certificate : Bytes) : List Note :=
  match keyOfCertificate certificate with
  | .error _ => []
  | .ok actual =>
    if actual = pin.key then []
    else
      (["Actual public key differs from the pinned public key!",
        s!"EXPECTED public key ({pin.key.length} bytes):"] ++ Hex.dump pin.key
        ++ [s!"ACTUAL   public key ({actual.length} bytes):"] ++ Hex.dump actual).map
        fun text => ⟨"cert", .error, text⟩

/-- The digest by which operators recognise a key. -/
def fingerprint (pin : Pin) : String :=
  Sha256.hex pin.key

end Pin

end FirmwareUpdate
