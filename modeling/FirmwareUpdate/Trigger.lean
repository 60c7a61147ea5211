import FirmwareUpdate.Log

/-!
# Triggers and connectivity

The flags by which the application, the timer and the network wake the worker. A trigger stays
pending from the request until the cycle for it is complete, so that asking twice before then
results in one cycle. A pending download goes before a pending check, and after a shutdown
nothing is taken any more.
-/

namespace FirmwareUpdate

/-- A reason for a cycle of the worker. -/
inductive Trigger
  | check
  | download
deriving DecidableEq, Repr

/-- The pending work. -/
structure Triggers where
  check : Bool := false
  download : Bool := false
  isShutDown : Bool := false
deriving DecidableEq, Repr, Inhabited

/-- What a worker finds that asks for work: an end, a trigger, or nothing yet. -/
inductive Wakeup
  | stopped
  | taken (trigger : Trigger)
  | blocked
deriving DecidableEq, Repr

namespace Triggers

/-- Whether a trigger is pending. -/
def isPending (triggers : Triggers) : Trigger → Bool
  | .check => triggers.check
  | .download => triggers.download

/-- The pending trigger that goes first. -/
def first? (triggers : Triggers) : Option Trigger :=
  if triggers.download then some .download
  else if triggers.check then some .check
  else none

/-- Sets a trigger pending. -/
def request (triggers : Triggers) : Trigger → Triggers
  | .check => { triggers with check := true }
  | .download => { triggers with download := true }

/-- Clears a trigger. -/
def complete (triggers : Triggers) : Trigger → Triggers
  | .check => { triggers with check := false }
  | .download => { triggers with download := false }

/-- Ends the taking of triggers. -/
def shutDown (triggers : Triggers) : Triggers :=
  { triggers with isShutDown := true }

/-- What a worker finds now. A taken trigger stays pending. -/
def next (triggers : Triggers) : Wakeup :=
  if triggers.isShutDown then .stopped
  else
    match triggers.first? with
    | some trigger => .taken trigger
    | none => .blocked

end Triggers

/-- Whether the network is reachable. -/
structure Connectivity where
  isConnected : Bool := false
deriving DecidableEq, Repr, Inhabited

namespace Connectivity

/-- Sets the signal. -/
def set (_ : Connectivity) (connected : Bool) : Connectivity :=
  ⟨connected⟩

/-- What is reported when the signal is set: a change. -/
def setNotes (signal : Connectivity) (connected : Bool) : List Note :=
  if signal.isConnected = connected then []
  else
    let direction := if connected then "up" else "down"
    [⟨"signal", .debug, s!"Connectivity changed: {direction}"⟩]

end Connectivity

end FirmwareUpdate
