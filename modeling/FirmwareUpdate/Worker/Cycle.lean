import FirmwareUpdate.Worker.Check
import FirmwareUpdate.Worker.Download

/-!
# Cycles

A cycle runs what its trigger asks for and then clears the trigger. After a check the timer is
armed again before the trigger is cleared. At the end the result is recorded in the status.
-/

namespace FirmwareUpdate

variable {σ ω : Type}

namespace Worker

/-- What is reported when a cycle starts. -/
def startText : Trigger → String
  | .check => "Firmware updater task checking for firmware update"
  | .download => "Firmware updater task will now download the new firmware image"

/-- Runs what a trigger asks for. -/
def act (p : Platform σ ω) (worker : Worker ω) (trigger : Trigger) :
    Act σ (Worker ω × CycleResult) := do
  report origin .info (startText trigger)
  match trigger with
  | .check => worker.check p
  | .download => worker.download p

/-- Arms the timer after a check. -/
def rearm (p : Platform σ ω) (worker : Worker ω) : Trigger → Act σ Unit
  | .check => worker.armTimer p
  | .download => return ()

/-- The worker after it has cleared a trigger. -/
def complete (worker : Worker ω) (trigger : Trigger) : Worker ω :=
  { worker with triggers := worker.triggers.complete trigger }

/-- The worker after it has recorded a result. -/
def record (worker : Worker ω) (result : CycleResult) : Worker ω :=
  { worker with status := { worker.status with last := some result } }

/-- What is reported at the end of a cycle: a failure. -/
def resultNotes : CycleResult → List Note
  | .failed fault =>
    [⟨origin, .warn, s!"Update cycle failed [{fault.code}]: {fault.message}"⟩]
  | _ => []

/-- Runs one cycle for a trigger. -/
def process (p : Platform σ ω) (worker : Worker ω) (trigger : Trigger) :
    Act σ (Worker ω × CycleResult) := do
  let (worker, result) ← worker.act p trigger
  worker.rearm p trigger
  reportAll (resultNotes result)
  return ((worker.complete trigger).record result, result)

end Worker

end FirmwareUpdate
