import Mathlib.Tactic.Common

/-!
# Attempts

Steps that may fail are taken one after the other, and go well together exactly if each of them goes
well.
-/

namespace FirmwareUpdate

variable {ε α β : Type}

theorem bind_eq_ok_iff {first : Except ε β} {next : β → Except ε α} {a : α} :
  (first >>= next) = .ok a ↔ ∃ b, first = .ok b ∧ next b = .ok a
  := by
  cases first with
  | error _ => simp [bind, Except.bind]
  | ok _ => simp [bind, Except.bind]

/-- What a failure is called does not matter to what goes well. -/
theorem mapError_eq_ok_iff {ε' : Type} {f : ε → ε'} {attempt : Except ε α} {a : α} :
  attempt.mapError f = .ok a ↔ attempt = .ok a
  := by
  cases attempt with
  | error _ => simp [Except.mapError]
  | ok _ => simp [Except.mapError]

theorem map_eq_ok_iff {f : α → β} {attempt : Except ε α} {b : β} :
  attempt.map f = .ok b ↔ ∃ a, attempt = .ok a ∧ f a = b
  := by
  cases attempt with
  | error _ => simp [Except.map]
  | ok _ => simp [Except.map]

theorem ok_bind (b : β) (next : β → Except ε α) :
  (.ok b >>= next) = next b
  := rfl

end FirmwareUpdate
