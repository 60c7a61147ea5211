/-!
# Faults

Everything that can go wrong between the server and the flash, with the short code used in
log lines and the sentence shown to the operator.
-/

namespace FirmwareUpdate

/-- A response that breaks the protocol. -/
inductive ProtocolFault
  | invalidStatusLine
  | versionNotSupported (major : Nat)
  | nonOkStatus (code : Nat)
  | bufferTooSmall (capacity required : Nat)
  | missingContentLength
  | truncatedBody (expected received : Nat)
deriving DecidableEq, Repr

/-- An operation in the wrong state of a session. -/
inductive SessionFault
  | alreadyOpen
  | notOpen
  | notConnected
deriving DecidableEq, Repr

/-- The cause of a failed operation. -/
inductive Fault
  | invalidArgument (message : String)
  | outOfMemory
  | transport (message : String)
  | pinningMismatch (expected actual : Nat)
  | protocol (cause : ProtocolFault)
  | sessionState (cause : SessionFault)
  | storageWrite (message : String)
  | partitionNotFound (label : String)
deriving DecidableEq, Repr

/-- Results are compared by what they hold. -/
instance decidableEqResult {ε α : Type} [DecidableEq ε] [DecidableEq α] :
    DecidableEq (Except ε α)
  | .ok a, .ok b => decidable_of_iff (a = b) ⟨congrArg Except.ok, Except.ok.inj⟩
  | .error e, .error f => decidable_of_iff (e = f) ⟨congrArg Except.error, Except.error.inj⟩
  | .ok _, .error _ => isFalse nofun
  | .error _, .ok _ => isFalse nofun

/-- The sentence for a broken protocol. -/
def ProtocolFault.message : ProtocolFault → String
  | .invalidStatusLine => "invalid HTTP status line"
  | .versionNotSupported major => s!"HTTP major version {major} not supported"
  | .nonOkStatus code => s!"non-200 status code {code}"
  | .bufferTooSmall capacity required =>
    s!"response buffer too small ({capacity} bytes, {required} required)"
  | .missingContentLength => "Content-Length header missing"
  | .truncatedBody expected received =>
    s!"connection closed after {received} of {expected} body bytes"

/-- The sentence for a wrong state. -/
def SessionFault.message : SessionFault → String
  | .alreadyOpen => "session already open"
  | .notOpen => "no open session"
  | .notConnected => "not connected"

namespace Fault

/-- The short code of a fault. -/
def code : Fault → String
  | invalidArgument _ => "INVALID_ARGUMENT"
  | outOfMemory => "OUT_OF_MEMORY"
  | transport _ => "TRANSPORT"
  | pinningMismatch _ _ => "PINNING_MISMATCH"
  | protocol _ => "PROTOCOL"
  | sessionState _ => "SESSION_STATE"
  | storageWrite _ => "STORAGE_WRITE"
  | partitionNotFound _ => "PARTITION_NOT_FOUND"

/-- The sentence for a fault. -/
def message : Fault → String
  | invalidArgument text => s!"invalid argument: {text}"
  | outOfMemory => "out of memory"
  | transport text => s!"transport error: {text}"
  | pinningMismatch expected actual =>
    s!"certificate pinning mismatch (expected {expected} byte key, got {actual} bytes)"
  | protocol cause => s!"protocol error: {cause.message}"
  | sessionState cause => s!"session state error: {cause.message}"
  | storageWrite text => s!"storage write failed: {text}"
  | partitionNotFound label => s!"partition not found: {label}"

end Fault

end FirmwareUpdate
