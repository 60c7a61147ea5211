import FirmwareUpdate.Worker.Cycle

/-!
# The running updater

The worker runs in a thread of its own and shares with the application, the timer and the
network nothing but the triggers and the connectivity signal. Its loop is given as single
steps, between which the others may set triggers, change the signal or shut the worker down.
Before the first cycle and before every later one the worker waits until it sees the network
up, and then looks for a shutdown.
-/

namespace FirmwareUpdate

variable {σ ω : Type}

/-- What a worker waits for the network for: its start, or the cycle of a trigger. -/
inductive Purpose
  | startup
  | cycle (trigger : Trigger)
deriving DecidableEq, Repr

/-- Where a worker stands in its loop. -/
inductive Phase
  | starting
  | waiting (purpose : Purpose)
  | admitted (purpose : Purpose)
  | settling
  | idle
  | acting (trigger : Trigger)
  | rearming (trigger : Trigger) (result : CycleResult)
  | completing (trigger : Trigger) (result : CycleResult)
  | recording (trigger : Trigger) (result : CycleResult)
  | disarming
  | leaving
  | gone
deriving DecidableEq, Repr

/-- Where a worker goes that finds itself shut down while it waits: at its start it only
leaves, later it disarms the timer first. -/
def Purpose.giveUp : Purpose → Phase
  | .startup => .leaving
  | .cycle _ => .disarming

/-- Where a worker goes that may go on. -/
def Purpose.goOn : Purpose → Phase
  | .startup => .settling
  | .cycle trigger => .acting trigger

/-- A worker in its loop, with the network's signal. -/
structure Updater (ω : Type) where
  worker : Worker ω
  connectivity : Connectivity := {}
  phase : Phase := .starting

namespace Updater

/-- Arms the timer and starts the loop. -/
def spawn (p : Platform σ ω) (worker : Worker ω) (connectivity : Connectivity) :
    Act σ (Updater ω) := do
  worker.armTimer p
  return { worker, connectivity }

/-- What the loop reports first. -/
def startNote (u : Updater ω) : Note :=
  ⟨Worker.origin, .info,
    s!"Firmware updater task started (running version {u.worker.runningVersion})"⟩

/-- The updater with other triggers. -/
def withTriggers (u : Updater ω) (f : Triggers → Triggers) : Updater ω :=
  { u with worker := { u.worker with triggers := f u.worker.triggers } }

/-- A trigger is requested, by the timer or by the application. -/
def request (u : Updater ω) (trigger : Trigger) : Updater ω :=
  u.withTriggers (·.request trigger)

/-- The worker is shut down. -/
def shutDown (u : Updater ω) : Updater ω :=
  u.withTriggers Triggers.shutDown

/-- The network goes up or down. -/
def setConnected (u : Updater ω) (connected : Bool) : Updater ω :=
  { u with connectivity := u.connectivity.set connected }

/-- The application asks for a check, which it cannot after a shutdown. -/
def checkNow (u : Updater ω) : Except Fault (Updater ω) :=
  if u.worker.triggers.isShutDown then
    .error (.invalidArgument "updater has been shut down")
  else .ok (u.request .check)

/-- What is reported when the application may ask for a check. -/
def checkNote : Note :=
  ⟨Worker.origin, .debug, "Manual update check requested"⟩

/-- The phase after a step that only looks at the shared flags, if there is one. -/
def look (u : Updater ω) : Option Phase :=
  let isShutDown := u.worker.triggers.isShutDown
  match u.phase with
  | .waiting purpose =>
    if u.connectivity.isConnected then some (.admitted purpose)
    else if isShutDown then some purpose.giveUp
    else none
  | .admitted purpose => some (if isShutDown then purpose.giveUp else purpose.goOn)
  | .settling => some .idle
  | .idle =>
    match u.worker.triggers.next with
    | .stopped => some .disarming
    | .taken trigger => some (.waiting (.cycle trigger))
    | .blocked => none
  | _ => none

/-- One step of the loop, if the worker can make one now. A worker that leaves drops its session,
which gives back what it holds of the transport. It drops its timer as well; that is left out, since
a timer is known by its arming and disarming only, and each kind has its own way to be dropped. -/
def step (p : Platform σ ω) (u : Updater ω) : Act σ (Option (Updater ω)) := do
  match u.phase with
  | .starting =>
    reportAll [u.startNote]
    return some { u with phase := .waiting .startup }
  | .acting trigger =>
    let (worker, result) ← u.worker.act p trigger
    return some { u with worker, phase := .rearming trigger result }
  | .rearming trigger result =>
    u.worker.rearm p trigger
    return some { u with phase := .completing trigger result }
  | .completing trigger result =>
    reportAll (Worker.resultNotes result)
    return some { u with
      worker := u.worker.complete trigger
      phase := .recording trigger result }
  | .recording _ result =>
    return some { u with worker := u.worker.record result, phase := .idle }
  | .disarming =>
    perform p.timer.disarm fun _ => .disarm u.worker.triggers
    report Worker.origin .info "Firmware updater task stopped"
    return some { u with phase := .leaving }
  | .leaving =>
    u.worker.close p
    return some { u with phase := .gone }
  | .gone => return none
  | _ => return u.look.map fun phase => { u with phase }

/-- The updater after at most `count` steps, fewer if it cannot make more now. -/
def run (p : Platform σ ω) : (count : Nat) → Updater ω → Act σ (Updater ω)
  | 0, u => return u
  | count + 1, u => do
    match ← u.step p with
    | none => return u
    | some u => run p count u

end Updater

end FirmwareUpdate
