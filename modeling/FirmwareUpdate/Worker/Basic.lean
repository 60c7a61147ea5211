import FirmwareUpdate.Http.Client
import FirmwareUpdate.Metadata
import FirmwareUpdate.Slot.Programmer

/-!
# The worker

A worker owns the client, the programmer and the configuration. It is woken by triggers and
runs one cycle for each: a check of the metadata or a download of the announced image.
-/

namespace FirmwareUpdate

variable {σ ω : Type}

/-- The operations of the one-shot timer that requests the periodic checks. Arming replaces
the deadline of an earlier arming. -/
structure CheckTimer (σ : Type) where
  arm : Duration → Op σ Outcome
  disarm : Op σ Unit

/-- Everything that a worker needs of a device. The observer, if there is one, is told the
configuration whenever the metadata have changed it. -/
structure Platform (σ ω : Type) where
  transport : Transport σ
  slots : Slots σ ω
  timer : CheckTimer σ
  restart : Duration → Op σ Unit
  observer : Option (Config → Op σ Unit) := none

/-- What a cycle has come to. -/
inductive CycleResult
  | upToDate (version : UInt32)
  | updateAvailable (version : UInt32) (file : String)
  | metadataIncomplete
  | installed (installation : Installation)
  | emptyImage
  | failed (fault : Fault)
deriving DecidableEq, Repr

/-- What the application can see of a worker. -/
structure Status where
  inProgress : Bool := false
  installed : Bool := false
  last : Option CycleResult := none
deriving DecidableEq, Repr

/-- A worker between two cycles. -/
structure Worker (ω : Type) where
  config : Config
  options : Options
  runningVersion : UInt32
  client : Client
  programmer : Programmer ω := {}
  triggers : Triggers := {}
  status : Status := {}

namespace Worker

/-- The part that a worker's notes come from. -/
def origin : String := "orchestrator"

/-- The size of a buffer that cannot be had. -/
def memoryLimit : Nat := Nat.pow 2 63

/-- Accepts the size of a buffer. -/
def checkBuffer (size : Nat) : Outcome :=
  if size = 0 then .error (.invalidArgument "buffer size must be non-zero")
  else if memoryLimit ≤ size then .error .outOfMemory
  else .ok ()

/-- Accepts the sizes of the buffers. -/
def checkBuffers (options : Options) : Outcome := do
  checkBuffer options.metadataBuffer
  checkBuffer options.firmwareBuffer

/-- A new worker. -/
def start (p : Platform σ ω) (config : Config) (options : Options) (runningVersion : UInt32)
    (triggers : Triggers) : Act σ (Except Fault (Worker ω)) := do
  match config.validate with
  | .error fault => return .error fault
  | .ok () =>
    match Session.start config.identity options.ioTimeout with
    | .error fault => return .error fault
    | .ok session =>
      reportAll [Session.startNote config.identity]
      match checkBuffers options with
      | .error fault =>
        session.close p.transport
        return .error fault
      | .ok () =>
        return .ok { config, options, runningVersion, client := { session }, triggers }

/-- Gives back what the worker holds of the transport. -/
def close (p : Platform σ ω) (worker : Worker ω) : Act σ Unit :=
  worker.client.session.close p.transport

/-- Arms the timer for the next check, or disarms it if there are no periodic checks. -/
def armTimer (p : Platform σ ω) (worker : Worker ω) : Act σ Unit := do
  match worker.config.period with
  | some period =>
    match ← perform (p.timer.arm period) (.arm period worker.triggers) with
    | .error fault =>
      report origin .error s!"Failed to start the periodic check timer: {fault.message}"
    | .ok () => return ()
  | none =>
    report origin .debug "Periodic update checks disabled"
    perform p.timer.disarm fun _ => .disarm worker.triggers

end Worker

end FirmwareUpdate
