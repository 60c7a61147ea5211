import FirmwareUpdate.Duration
import FirmwareUpdate.Fault
import FirmwareUpdate.Text.Blank

/-!
# Configuration

The record that tells the updater which server to ask, whom to trust, and how often to look.
The metadata of the server may change the path of the image and the polling interval; nothing
else in the record ever changes while the updater runs.
-/

namespace FirmwareUpdate

/-- The persisted settings of the updater. An interval of zero switches periodic checks off. -/
structure Config where
  serverHost : String := ""
  serverPort : UInt16 := 443
  rootCertificate : String := ""
  peerCertificate : String := ""
  metadataPath : String := "/ota.txt"
  firmwarePath : String := ""
  pollingInterval : UInt32 := 3600
  autoReboot : Bool := true
deriving DecidableEq, Repr, Inhabited

/-- Settings that are not persisted. -/
structure Options where
  startupDelay : Duration := .ofSeconds 5
  rebootDelay : Duration := .ofSeconds 2
  ioTimeout : Duration := .ofSeconds 30
  metadataBuffer : Nat := 512
  firmwareBuffer : Nat := 4096
deriving DecidableEq, Repr, Inhabited

namespace Config

/-- Whether a text consists of blanks only. -/
def isBlank (text : String) : Bool :=
  (Text.trim text.toList).isEmpty

/-- Accepts a record that names a server, the certificates and an absolute path. -/
def validate (config : Config) : Except Fault Unit :=
  if isBlank config.serverHost then .error (.invalidArgument "server host missing")
  else if config.serverPort = 0 then .error (.invalidArgument "server port must be 1-65535")
  else if isBlank config.rootCertificate then
    .error (.invalidArgument "root CA certificate missing")
  else if isBlank config.peerCertificate then
    .error (.invalidArgument "pinned peer certificate missing")
  else if config.metadataPath.toList.head? ≠ some '/' then
    .error (.invalidArgument s!"metadata path must be absolute: '{config.metadataPath}'")
  else .ok ()

/-- The time until the next automatic check, if there are any. -/
def period (config : Config) : Option Duration :=
  if config.pollingInterval = 0 then none
  else some (.ofSeconds config.pollingInterval.toNat)

end Config

end FirmwareUpdate
