import FirmwareUpdate.Console
import FirmwareUpdate.Device.Flash
import FirmwareUpdate.Device.Link
import FirmwareUpdate.Device.Monitor
import FirmwareUpdate.Device.Settings
import FirmwareUpdate.Device.Timer
import FirmwareUpdate.Version
import FirmwareUpdate.Worker.Updater

/-!
# Starting a device

A device takes its parts from the kit one after the other, loads its settings, joins its
network, and starts the monitor and the updater. A network that cannot be joined does not stop
it, since the monitor goes on trying; everything else that fails does.
-/

namespace FirmwareUpdate.Device

variable {κ : Type} (kit : Kit κ)

/-- A device that has started. -/
structure Application where
  station : Station
  monitor : Monitor
  updater : Updater Flash.Writer

namespace Application

/-- The part that the notes come from. -/
def origin : String := "esp32_ota_https"

/-- An act that may fail with a text. -/
abbrev Startup (κ : Type) := ExceptT String (Act (Board κ))

/-- Everything that the updater needs of a board. -/
def platform (options : Options) (observer : Option (Config → Op (Board κ) Unit)) :
    Platform (Board κ) Flash.Writer where
  transport := Link.transport kit (UInt32.ofNat options.ioTimeout.milliseconds)
  slots := Flash.slots kit
  timer := checkTimer kit
  restart := Device.restart kit
  observer

/-- Saves the settings with a changed configuration of the updater. -/
def persist (settings : Settings) (config : Config) : Op (Board κ) Unit := do
  if let .error message ← Settings.save kit { settings with updater := config } then
    report origin .warn s!"Failed to persist updated OTA settings: {message}"

/-- Sets the severities that are logged as a word says. -/
def setLimit (word : String) : Op (Board κ) Unit := do
  let (limit, isUnderstood) := Console.setLimit Console.initialLimit word
  .onState fun board => ((), { board with limit })
  if !isUnderstood then
    report origin .warn s!"Unknown log level '{word}', keeping debug"

/-- Reports what is starting, with so many bytes of free memory. -/
def greet (memory : Nat) : Op (Board κ) Unit := do
  report origin .info s!"ESP32 HTTPS OTA {Version.full}"
  report origin .info s!"Free heap: {memory} bytes"

/-- Reports where the updater looks for updates. -/
def reportServer (config : Config) : Op (Board κ) Unit := do
  let server := s!"{config.serverHost}:{config.serverPort}{config.metadataPath}"
  let interval := s!"poll every {config.pollingInterval} s"
  report origin .info
    s!"Update server: {server} ({interval}, auto reboot {config.autoReboot})"

/-- Takes something from the kit that it may refuse. -/
def take (op : Op (Board κ) (Except String Unit)) : Startup κ Unit :=
  ExceptT.mk (Act.ofOp op)

/-- Takes the parts that every device has. -/
def takeParts : Startup κ Unit := do
  take (ask kit .peripherals)
  take (ask kit .eventLoop)
  take (ask kit .storagePartition)
  take (ask kit .timerService)

/-- Sets up the station, joins the network, and starts the monitor. -/
def joinNetwork (settings : Settings) : Startup κ (Station × Monitor) := do
  let credentials : Credentials := ⟨settings.ssid, settings.password⟩
  let station ← ExceptT.mk (Act.ofOp (Station.new kit credentials))
  let monitor ← ExceptT.lift <| Act.ofOp do
    if let .error message ← station.connect kit then
      report origin .warn
        s!"Initial WiFi connection failed: {message} (monitor will retry)"
    Monitor.start (station.uplink kit) {}
  return (station, monitor)

/-- Starts the updater and asks for a first check. -/
def startUpdater (settings : Settings) (connectivity : Connectivity) :
    Startup κ (Updater Flash.Writer) := do
  let options : Options := {}
  let p := platform kit options (some (persist kit settings))
  ExceptT.lift (report origin .info "Initialising OTA firmware updating")
  take (ask kit .newTimer)
  let worker ← ExceptT.mk do
    return (← Worker.start p settings.updater options Version.software {}).mapError Fault.message
  let updater ← ExceptT.lift (Updater.spawn p worker connectivity)
  let updater ← ExceptT.mk (return updater.checkNow.mapError Fault.message)
  ExceptT.lift (reportAll [Updater.checkNote])
  return updater

/-- Starts the device, where `word` says which severities are logged. -/
def boot (build : BuildSettings) (word : String) (memory : Nat) :
    Act (Board κ) (Except String Application) := ExceptT.run do
  ExceptT.lift <| Act.ofOp do
    setLimit word
    greet memory
  takeParts kit
  let settings ← ExceptT.mk (Act.ofOp (Settings.openAndLoad kit build))
  ExceptT.lift (Act.ofOp (reportServer settings.updater))
  let (station, monitor) ← joinNetwork kit settings
  let updater ← startUpdater kit settings monitor.signal
  return { station, monitor, updater }

/-- The milliseconds from one round of the application to the next. -/
def period : Nat := 500

/-- What the application has reported about the updater. -/
structure Watch where
  inProgress : Bool := false
  installed : Bool := false
deriving DecidableEq, Repr

/-- What a round of the application reports. -/
def roundNotes (watch : Watch) (status : Status) : List Note :=
  let progress :=
    if status.inProgress = watch.inProgress then []
    else
      let what := if status.inProgress then "started" else "finished"
      [⟨origin, .info, s!"Firmware download {what}"⟩]
  let installation :=
    if status.installed && !watch.installed then
      [⟨origin, .info, "New firmware installed; it becomes active on the next reboot"⟩]
    else []
  progress ++ installation

/-- One round of the application, which goes on until the device restarts. -/
def round (watch : Watch) (status : Status) : Op (Board κ) Watch := do
  reportAll (roundNotes watch status)
  ask kit (.delay period)
  return ⟨status.inProgress, watch.installed || status.installed⟩

end Application

end FirmwareUpdate.Device
