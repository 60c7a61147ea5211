import FirmwareUpdate.Config
import FirmwareUpdate.Log
import FirmwareUpdate.Text.Decimal

/-!
# Settings of the build

The texts that were given when the image was built, and the configuration that they make up.
A text that is not a value of its kind is reported and replaced by a default.
-/

namespace FirmwareUpdate.Device

/-- The texts that an image is built with. -/
structure BuildSettings where
  ssid : String
  password : String
  serverHost : String
  serverPort : String
  metadataPath : String
  pollingInterval : String
  autoReboot : String
  rootCertificate : String
  peerCertificate : String
deriving DecidableEq, Repr

namespace BuildSettings

variable {α : Type}

/-- A value read from a text of the build, or the default, and what is reported about it. -/
def valueOr (name raw : String) (value : Option α) (absent : α) : α × List Note :=
  match value with
  | some a => (a, [])
  | none =>
    (absent,
      [⟨"config", .warn, s!"Invalid {name}='{raw}' in build environment, using default"⟩])

/-- The port in a text. -/
def port? (raw : String) : Option UInt16 :=
  (Text.readBelow? UInt16.size raw.toList).map UInt16.ofNat

/-- The number of seconds in a text. -/
def seconds? (raw : String) : Option UInt32 :=
  (Text.readBelow? UInt32.size raw.toList).map UInt32.ofNat

/-- The truth value in a text. -/
def flag? (raw : String) : Option Bool :=
  match raw with
  | "true" => some true
  | "false" => some false
  | _ => none

/-- The port of the server, and what is reported about it. -/
def portOf (settings : BuildSettings) : UInt16 × List Note :=
  valueOr "OTA_SERVER_PORT" settings.serverPort (port? settings.serverPort) 443

/-- The polling interval, and what is reported about it. -/
def intervalOf (settings : BuildSettings) : UInt32 × List Note :=
  valueOr "OTA_POLLING_INTERVAL_S" settings.pollingInterval
    (seconds? settings.pollingInterval) 3600

/-- Whether to restart after an installation, and what is reported about it. -/
def rebootOf (settings : BuildSettings) : Bool × List Note :=
  valueOr "OTA_AUTO_REBOOT" settings.autoReboot (flag? settings.autoReboot) true

/-- The configuration of the updater. -/
def updater (settings : BuildSettings) : Config where
  serverHost := settings.serverHost
  serverPort := settings.portOf.1
  rootCertificate := settings.rootCertificate
  peerCertificate := settings.peerCertificate
  metadataPath := settings.metadataPath
  firmwarePath := ""
  pollingInterval := settings.intervalOf.1
  autoReboot := settings.rebootOf.1

/-- What is reported when the settings are used. -/
def notes (settings : BuildSettings) : List Note :=
  let password := if settings.password.isEmpty then "<empty>" else "<set>"
  ⟨"config", .info, s!"Config default: SSID='{settings.ssid}', Password={password}"⟩
    :: settings.portOf.2 ++ settings.intervalOf.2 ++ settings.rebootOf.2

end BuildSettings

end FirmwareUpdate.Device
