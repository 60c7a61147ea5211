import FirmwareUpdate.Scene

/-!
# Trying again

An operation that asks to be tried again is tried until it is done, fails, or has made no
progress for too long. Time goes by only within the operation and in the pauses between the
rounds: the first rounds follow each other at once, later ones after a short pause. So a time
limit bounds the number of rounds.
-/

namespace FirmwareUpdate

variable {σ α : Type}

/-- The number of rounds from which on there is a pause after each. -/
def eagerRounds : Nat := 16

/-- The pause after a round, in nanoseconds, where the rounds are counted from one. -/
def pauseAfter (round : Nat) : Nat :=
  if round < eagerRounds then 0 else (Duration.ofMilliseconds 5).nanoseconds

/-- The fault of an operation that has made no progress for too long. -/
def noProgress (what : String) (timeout : Duration) (rounds : Nat) : Fault :=
  .transport s!"{what}: no progress after {timeout.text} ({rounds} retries)"

/-- Tries an operation, called `what` in faults, from the given number of rounds and elapsed
nanoseconds on. -/
def retryFrom (timeout : Duration) (what : String) (op : Act σ (Progress α))
    (rounds elapsed : Nat) : Act σ (Except Fault α) := do
  match ← op with
  | .ready a => return .ok a
  | .failed message => return .error (.transport s!"{what}: {message}")
  | .retry spent =>
    let now := elapsed + spent.nanoseconds
    if timeout.nanoseconds ≤ now then
      return .error (noProgress what timeout (rounds + 1))
    else retryFrom timeout what op (rounds + 1) (now + pauseAfter (rounds + 1))
termination_by (eagerRounds - rounds) + (timeout.nanoseconds - elapsed)
decreasing_by
  have : now = elapsed + spent.nanoseconds := rfl
  unfold pauseAfter
  split <;> simp only [Duration.ofMilliseconds, eagerRounds] at * <;> omega

/-- Tries an operation, called `what` in faults. -/
def retry (timeout : Duration) (what : String) (op : Act σ (Progress α)) :
    Act σ (Except Fault α) :=
  retryFrom timeout what op 0 0

end FirmwareUpdate
