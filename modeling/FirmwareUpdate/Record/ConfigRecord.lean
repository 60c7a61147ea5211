import FirmwareUpdate.Config
import FirmwareUpdate.Record.Fields

/-!
# The configuration as a record

The text of a configuration has its fields in the order of the format and no spaces. The path
of the image may miss, since it becomes known only with the first metadata.
-/

namespace FirmwareUpdate.Config

open Record

/-- The format of a configuration. -/
def format : Format Config where
  title := "struct OtaConfig"
  fields := [
    .of "server_host" readText fun text config => { config with serverHost := text },
    .of "server_port" (readNatural UInt16.size "u16") fun n config =>
      { config with serverPort := UInt16.ofNat n },
    .of "root_ca_cert_pem" readText fun text config =>
      { config with rootCertificate := text },
    .of "pinned_peer_cert_pem" readText fun text config =>
      { config with peerCertificate := text },
    .of "metadata_path" readText fun text config => { config with metadataPath := text },
    { Field.of "firmware_path" readText fun text config =>
        { config with firmwarePath := text } with mayMiss := true },
    .of "polling_interval_seconds" (readNatural UInt32.size "u32") fun n config =>
      { config with pollingInterval := UInt32.ofNat n },
    .of "auto_reboot" readFlag fun flag config => { config with autoReboot := flag }]

/-- The configuration that a text describes. -/
def ofRecord (text : Bytes) : Except Failure Config :=
  format.readAll {} text

/-- The text of a configuration. -/
def record (config : Config) : String :=
  let quoted (name value : String) := s!"{Quoted.encode name}:{Quoted.encode value}"
  let bare (name value : String) := s!"{Quoted.encode name}:{value}"
  let fields := [
    quoted "server_host" config.serverHost,
    bare "server_port" (toString config.serverPort),
    quoted "root_ca_cert_pem" config.rootCertificate,
    quoted "pinned_peer_cert_pem" config.peerCertificate,
    quoted "metadata_path" config.metadataPath,
    quoted "firmware_path" config.firmwarePath,
    bare "polling_interval_seconds" (toString config.pollingInterval),
    bare "auto_reboot" (toString config.autoReboot)]
  "\x7b" ++ ",".intercalate fields ++ "\x7d"

end FirmwareUpdate.Config
