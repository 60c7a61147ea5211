import FirmwareUpdate.Proofs.Ensures
import Mathlib.Order.Basic

/-!
# What acts are composed of

Everything that the updater does is put together from notes and from operations of its platform.
Which operations these are is said once for every act; whatever all of them have in common then
holds of the act.
-/

namespace FirmwareUpdate

variable {σ α β : Type}

/-- A kind of operations, with the entries that they leave. -/
abbrev Basis (σ : Type) := (α : Type) → Op σ α → (α → Call) → Prop

/-- An act that is put together from notes and from operations of the kind `B`. -/
inductive Act.Composed (B : Basis σ) : {α : Type} → Act σ α → Prop
  | pure {α : Type} (a : α) : Composed B (Pure.pure a)
  | reportAll (notes : List Note) : Composed B (FirmwareUpdate.reportAll notes)
  | perform {α : Type} {op : Op σ α} {entry : α → Call} :
      B α op entry → Composed B (FirmwareUpdate.perform op entry)
  | bind {α β : Type} {act : Act σ α} {next : α → Act σ β} :
      Composed B act → (∀ a, Composed B (next a)) → Composed B (act >>= next)

/-- The operations that keep an assertion. -/
def Assertion.Keepers (I : Assertion σ) : Basis σ :=
  fun _ op entry => (perform op entry).Keeps I

namespace Act.Composed

variable {B : Basis σ} {I : Assertion σ}

/-- An act keeps what all operations keep that it is put together from. -/
theorem keeps {act : Act σ α} (h : act.Composed B) (hB : B ≤ I.Keepers) :
  act.Keeps I
  := by
  induction h with
  | pure a => apply Act.Keeps.pure
  | reportAll notes =>
      apply Act.Ensures.reportAll
      intro _ _ h
      apply h
  | perform hop => apply hB _ _ _ hop
  | bind _ _ ihact ihnext => apply ihact.bind ihnext

/-- An act whose answer is only looked at in another way. -/
theorem map {act : Act σ α} (h : act.Composed B) (f : α → β) :
  (act >>= fun a => Pure.pure (f a)).Composed B
  := by
  apply h.bind
  intro a
  apply pure

theorem bind_reportAll {notes : List Note} {next : Unit → Act σ α} (h : (next ()).Composed B) :
  (FirmwareUpdate.reportAll notes >>= next).Composed B
  := by
  apply (reportAll notes).bind
  intro _
  apply h

theorem bind_report {origin text : String} {severity : Severity} {next : Unit → Act σ α}
    (h : (next ()).Composed B) :
  (report origin severity text >>= next).Composed B
  := bind_reportAll h

theorem retryFrom {timeout : Duration} {what : String} {act : Act σ (Progress α)}
    (rounds elapsed : Nat) (h : act.Composed B) :
  (retryFrom timeout what act rounds elapsed).Composed B
  := by
  induction rounds, elapsed using retryFrom.induct timeout with
  | case1 rounds elapsed ih =>
      rw [FirmwareUpdate.retryFrom]
      apply h.bind
      intro progress
      cases progress with
      | ready _ => apply pure
      | failed _ => apply pure
      | retry spent =>
          dsimp only
          split
          · apply pure
          · apply ih spent
            assumption

theorem retry {timeout : Duration} {what : String} {act : Act σ (Progress α)}
    (h : act.Composed B) :
  (retry timeout what act).Composed B
  := h.retryFrom 0 0

end Act.Composed

end FirmwareUpdate
