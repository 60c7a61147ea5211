import FirmwareUpdate.Device.Boot

/-!
# Watching a device

The threads of a device never end, so they are watched for a number of their pauses.
-/

namespace FirmwareUpdate.Bench

open Device

variable {σ κ : Type}

/-- The thread of a monitor until it has paused so many times for the length of its period. The
time before an attempt counts as well if it is as long. -/
def watch (uplink : Uplink σ) : (pauses : Nat) → Monitor → Op σ Monitor
  | 0, monitor => return monitor
  | pauses + 1, monitor => do
    match ← monitor.look uplink with
    | (monitor, none) =>
      uplink.pause Monitor.period
      watch uplink pauses monitor
    | (monitor, some attempt) =>
      Monitor.backOff uplink attempt
      if (Monitor.wait attempt).toNat = Monitor.period then
        match pauses with
        | 0 => return monitor
        | pauses + 1 =>
          let monitor ← monitor.reconnect uplink attempt
          uplink.pause Monitor.period
          watch uplink pauses monitor
      else
        let monitor ← monitor.reconnect uplink attempt
        uplink.pause Monitor.period
        watch uplink pauses monitor

/-- So many rounds of an application during which the updater does not change its status. -/
def rounds (kit : Kit κ) (status : Status) : (count : Nat) → Application.Watch → Op (Board κ) Unit
  | 0, _ => return ()
  | count + 1, seen => do
    rounds kit status count (← Application.round kit seen status)

/-- What is reported by the threads of the updater and the monitor when they start. -/
def threadNotes (app : Application) : List Note :=
  [app.updater.startNote, Monitor.threadNote]

/-- Starts a device and watches it for so many rounds of the application, of which all but the
first come after the given number of pauses of the monitor. A failure to start comes with its
text; otherwise there is what the threads report when they start. -/
def trial (kit : Kit κ) (build : BuildSettings) (word : String) (memory : Nat)
    (count pauses : Nat) : Act (Board κ) (Except String (List Note)) := do
  match ← Application.boot kit build word memory with
  | .error message => return .error message
  | .ok app =>
    let status := app.updater.worker.status
    rounds kit status (min 1 count) {}
    let _ ← watch (app.station.uplink kit) pauses app.monitor
    rounds kit status (count - 1) {}
    return .ok (threadNotes app)

end FirmwareUpdate.Bench
