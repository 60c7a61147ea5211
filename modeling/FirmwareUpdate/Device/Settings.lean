import FirmwareUpdate.Device.BuildSettings
import FirmwareUpdate.Device.Kit
import FirmwareUpdate.Record.ConfigRecord

/-!
# The settings of a device

A device keeps its settings as one record: the network it joins and the configuration of the
updater. Settings that cannot be loaded are replaced by those of the build. The certificates
are always those of the running image, and so is the network if the record has none.
-/

namespace FirmwareUpdate.Device

open Record

variable {κ : Type} (kit : Kit κ)

/-- What a device keeps across restarts. -/
structure Settings where
  ssid : String := ""
  password : String := ""
  updater : Config := {}
deriving DecidableEq, Repr

namespace Settings

/-- The part that the notes come from. -/
def origin : String := "config"

/-- The part of the storage that belongs to the updater. -/
def space : String := "ota"

/-- Where the record is kept. -/
def path : String := space ++ "/config"

/-- The number of bytes that a record may have in order to be loaded. -/
def capacity : Nat := 8192

/-- The format of the record. -/
def format : Format Settings where
  title := "struct Config"
  fields := [
    .of "wifi_ssid" readText fun text settings => { settings with ssid := text },
    .of "wifi_password" readText fun text settings => { settings with password := text },
    .of "ota" (Config.format.read {}) fun config settings =>
      { settings with updater := config }]

/-- The settings that a text describes. -/
def ofRecord (text : Bytes) : Except Failure Settings :=
  format.readAll {} text

/-- The text of a record. -/
def record (settings : Settings) : String :=
  let entry (name value : String) := s!"{Quoted.encode name}:{value}"
  "\x7b" ++ ",".intercalate [
    entry "wifi_ssid" (Quoted.encode settings.ssid),
    entry "wifi_password" (Quoted.encode settings.password),
    entry "ota" settings.updater.record] ++ "\x7d"

/-- The settings of the build. -/
def ofBuild (build : BuildSettings) : Settings :=
  ⟨build.ssid, build.password, build.updater⟩

/-- Loads the settings. -/
def load : Op (Board κ) (Except String Settings) := do
  match ← ask kit (.readRecord path capacity) with
  | .error message => return .error message
  | .ok none => return .error "Config not found in NVS"
  | .ok (some text) =>
    match ofRecord text with
    | .error failure => return .error (failure.message text)
    | .ok settings => return .ok settings

/-- Saves the settings. -/
def save (settings : Settings) : Op (Board κ) (Except String Unit) := do
  match ← ask kit (.writeRecord path (utf8 settings.record)) with
  | .error message => return .error message
  | .ok () =>
    report origin .info "Configuration saved to NVS"
    return .ok ()

/-- Saves the settings. A failure is reported, where `what` says what could not be saved. -/
def saveOrReport (what : String) (settings : Settings) : Op (Board κ) Unit := do
  if let .error message ← save kit settings then
    report origin .warn s!"Failed to save {what}: {message}"

/-- Whether the record names a network and the way to join it. -/
def hasNetwork (settings : Settings) : Bool :=
  !settings.ssid.isEmpty && !settings.password.isEmpty

/-- Whether the certificates are those of the build. -/
def isCertified (build : BuildSettings) (settings : Settings) : Bool :=
  settings.updater.rootCertificate == build.rootCertificate
    && settings.updater.peerCertificate == build.peerCertificate

/-- The settings with the network of the build, unless they have one. -/
def withNetwork (build : BuildSettings) (settings : Settings) : Settings :=
  if settings.hasNetwork then settings
  else { settings with ssid := build.ssid, password := build.password }

/-- The settings with the certificates of the build. -/
def certified (build : BuildSettings) (settings : Settings) : Settings :=
  { settings with
    updater := { settings.updater with
      rootCertificate := build.rootCertificate
      peerCertificate := build.peerCertificate } }

/-- What is reported when loaded settings are completed. -/
def completionNotes (build : BuildSettings) (settings : Settings) : List Note :=
  let network :=
    if settings.hasNetwork then []
    else build.notes ++ [⟨origin, .warn,
      s!"NVS WiFi credentials empty, using compiled defaults: SSID='{build.ssid}'"⟩]
  let certificates :=
    if settings.isCertified build then []
    else [⟨origin, .info,
      "Server certificates changed with this firmware, updating stored copy"⟩]
  network ++ certificates

/-- Loads the settings and completes them, or takes those of the build. What differs from the
stored record is saved. -/
def loadOrDefault (build : BuildSettings) : Op (Board κ) Settings := do
  match ← load kit with
  | .ok settings =>
    report origin .info "Loaded configuration from NVS"
    reportAll (settings.completionNotes build)
    let completed := (settings.withNetwork build).certified build
    if !settings.hasNetwork || !settings.isCertified build then
      saveOrReport kit "updated config" completed
    return completed
  | .error message =>
    report origin .warn s!"Failed to load config from NVS: {message}, using defaults"
    reportAll build.notes
    saveOrReport kit "default config to NVS" (ofBuild build)
    return ofBuild build

/-- Opens the storage and loads the settings from it. -/
def openAndLoad (build : BuildSettings) : Op (Board κ) (Except String Settings) := do
  match ← ask kit (.openStorage space) with
  | .error message => return .error message
  | .ok () => return .ok (← loadOrDefault kit build)

end Settings

end FirmwareUpdate.Device
