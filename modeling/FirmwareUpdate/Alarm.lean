import FirmwareUpdate.Duration
import FirmwareUpdate.Trigger

/-!
# Alarm

A one-shot timer that shares its deadline with a thread of its own. The owner arms, disarms
and stops it; the thread looks at the deadline now and then, and once it has passed clears it
and requests a check. Each of these is one step under a lock, so they may come in any order.
-/

namespace FirmwareUpdate

/-- The deadline, in nanoseconds of some clock, if one is pending, and whether the thread is to
end. -/
structure Alarm where
  deadline : Option Nat := none
  isStopped : Bool := false
deriving DecidableEq, Repr, Inhabited

namespace Alarm

/-- Sets the deadline, replacing an earlier one. -/
def arm (alarm : Alarm) (now : Nat) (period : Duration) : Alarm :=
  { alarm with deadline := some (now + period.nanoseconds) }

/-- Clears the deadline. -/
def disarm (alarm : Alarm) : Alarm :=
  { alarm with deadline := none }

/-- Ends the thread. -/
def stop (alarm : Alarm) : Alarm :=
  { alarm with isStopped := true }

/-- Whether the thread raises a request when it looks at the given time. -/
def isDue (alarm : Alarm) (now : Nat) : Bool :=
  !alarm.isStopped && alarm.deadline.any (· ≤ now)

/-- What the thread leaves behind when it looks at the given time. -/
def look (alarm : Alarm) (now : Nat) : Alarm :=
  if alarm.isDue now then alarm.disarm else alarm

/-- What is reported when the alarm is armed. -/
def armNote (period : Duration) : Note :=
  ⟨"timer", .debug, s!"Next update check in {period.seconds} s"⟩

/-- An alarm, the triggers that it raises requests in, and the time. -/
structure Clockwork where
  alarm : Alarm := {}
  triggers : Triggers := {}
  now : Nat := 0
deriving DecidableEq, Repr, Inhabited

/-- The thread looks at the deadline. -/
def Clockwork.tick (c : Clockwork) : Clockwork :=
  { c with
    alarm := c.alarm.look c.now
    triggers := if c.alarm.isDue c.now then c.triggers.request .check else c.triggers }

/-- The clockwork at a later time, where the thread looks then. -/
def Clockwork.advance (c : Clockwork) (span : Duration) : Clockwork :=
  { c with now := c.now + span.nanoseconds }.tick

/-- Waits for a trigger for at most the given time, and stops the clock when there is one. -/
def Clockwork.await (c : Clockwork) (span : Duration) : Clockwork :=
  let c := c.tick
  if c.triggers.next ≠ .blocked then c
  else
    match c.alarm.deadline with
    | some deadline => c.advance ⟨min span.nanoseconds (deadline - c.now)⟩
    | none => c.advance span

end Alarm

end FirmwareUpdate
