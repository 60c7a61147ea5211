import FirmwareUpdate.Alarm
import FirmwareUpdate.Device.Kit
import FirmwareUpdate.Worker.Basic

/-!
# Timer and restart of a device

The kit has a one-shot timer for the periodic checks and restarts the device.
-/

namespace FirmwareUpdate.Device

variable {κ : Type} (kit : Kit κ)

/-- Arms the timer. The kit does not start a timer that still runs, so it is cancelled
first. -/
def armTimer (period : Duration) : Op (Board κ) Outcome := do
  let _ ← ask kit .cancelTimer
  match ← ask kit (.startTimer period) with
  | .error message =>
    report "timer" .error s!"Failed to start update check timer: {message}"
    return .error (.invalidArgument s!"timer start failed: {message}")
  | .ok () =>
    reportAll [Alarm.armNote period]
    return .ok ()

/-- The timer on a board. -/
def checkTimer : CheckTimer (Board κ) where
  arm := armTimer kit
  disarm := do
    let _ ← ask kit .cancelTimer

/-- What is reported when the timer elapses. -/
def dueNote : Note :=
  ⟨"timer", .debug, "Periodic update check due"⟩

/-- The longest wait of the kit, in milliseconds. -/
def longestDelay : Nat := UInt32.size - 1

/-- Restarts the device after a delay. -/
def restart (delay : Duration) : Op (Board κ) Unit := do
  ask kit (.delay (min delay.milliseconds longestDelay))
  ask kit .restart

end FirmwareUpdate.Device
