import FirmwareUpdate.Device.Station
import FirmwareUpdate.Trigger

/-!
# Keeping a device connected

A monitor looks now and then whether the network is up, passes that on to the connectivity
signal, and reconnects when it is down. The pauses before the attempts of one outage double
until they reach a minute, and every third attempt restarts the radio first.
-/

namespace FirmwareUpdate.Device

variable {σ κ : Type}

/-- The operations that a monitor needs of a station, and the way it lets time go by. -/
structure Uplink (σ : Type) where
  isUp : Op σ Bool
  connect : Op σ (Except String Unit)
  restart : Op σ (Except String Unit)
  pause : (milliseconds : Nat) → Op σ Unit

/-- The operations of a station on a board. -/
def Station.uplink (kit : Kit κ) (station : Station) : Uplink (Board κ) where
  isUp := Station.isUp kit
  connect := station.connect kit
  restart := Station.restart kit
  pause milliseconds := do
    ask kit (.delay milliseconds)

/-- A monitor: the attempts since the network went down, counted in words of 32 bits, and the
signal. -/
structure Monitor where
  attempts : UInt32 := 0
  signal : Connectivity := {}
deriving DecidableEq, Repr

namespace Monitor

/-- The part that the notes come from. -/
def origin : String := "wifi_reconnect"

/-- The milliseconds from the end of one look to the next. -/
def period : Nat := 10000

/-- The seconds before an attempt, where the attempts of an outage are counted from one. -/
def backoff (attempt : UInt32) : UInt32 :=
  min 60 (5 * ((1 : UInt32) <<< min (attempt - 1) 4))

/-- The milliseconds before an attempt. -/
def wait (attempt : UInt32) : UInt32 :=
  backoff attempt * 1000

/-- Whether an attempt restarts the radio. -/
def restarts (attempt : UInt32) : Bool :=
  attempt % 3 == 0

/-- Sets the signal. -/
def setSignal (monitor : Monitor) (isUp : Bool) : Op σ Monitor := do
  reportAll (monitor.signal.setNotes isUp)
  return { monitor with signal := monitor.signal.set isUp }

/-- The network is up: the outage, if there was one, is over. -/
def rest (monitor : Monitor) : Op σ Monitor := do
  if monitor.attempts = 0 then return monitor
  else
    report origin .warn s!"WiFi reconnected after {monitor.attempts} attempts"
    return { monitor with attempts := 0 }

/-- Looks whether the network is up, and gives the number of the attempt that is due if it is
down. -/
def look (uplink : Uplink σ) (monitor : Monitor) : Op σ (Monitor × Option UInt32) := do
  let wasUp := monitor.signal.isConnected
  let isUp ← uplink.isUp
  let monitor ← monitor.setSignal isUp
  if isUp then return (← monitor.rest, none)
  else
    if wasUp then
      report origin .warn "WiFi disconnected! Starting reconnection process..."
    let attempts := if wasUp then 1 else monitor.attempts + 1
    return ({ monitor with attempts }, some attempts)

/-- Lets the time before an attempt go by. -/
def backOff (uplink : Uplink σ) (attempt : UInt32) : Op σ Unit := do
  report origin .info s!"Backoff {backoff attempt}s before reconnection attempt #{attempt}"
  uplink.pause (wait attempt).toNat

/-- Restarts the radio, if that is for this attempt to do. -/
def restartIfDue (uplink : Uplink σ) (attempt : UInt32) : Op σ Unit := do
  if restarts attempt then
    if let .error message ← uplink.restart then
      report origin .error s!"WiFi restart failed: {message}"

/-- Joins the network again. -/
def rejoin (uplink : Uplink σ) (monitor : Monitor) : Op σ Monitor := do
  match ← uplink.connect with
  | .ok () => monitor.setSignal true
  | .error message =>
    report origin .error s!"WiFi reconnection failed: {message}"
    return monitor

/-- Makes an attempt to reconnect. -/
def reconnect (uplink : Uplink σ) (attempt : UInt32) (monitor : Monitor) : Op σ Monitor := do
  restartIfDue uplink attempt
  monitor.rejoin uplink

/-- Looks once, and makes an attempt to reconnect if the network is down. -/
def poll (uplink : Uplink σ) (monitor : Monitor) : Op σ Monitor := do
  match ← monitor.look uplink with
  | (monitor, none) => return monitor
  | (monitor, some attempt) =>
    backOff uplink attempt
    monitor.reconnect uplink attempt

/-- Passes the state of the network on before the monitor's own thread takes over. -/
def start (uplink : Uplink σ) (monitor : Monitor) : Op σ Monitor := do
  let monitor ← monitor.setSignal (← uplink.isUp)
  report origin .info "WiFi auto-reconnection monitoring started"
  return monitor

/-- What the monitor's thread reports first. -/
def threadNote : Note :=
  ⟨origin, .info, "WiFi monitoring task started"⟩

end Monitor

end FirmwareUpdate.Device
