import FirmwareUpdate.Retry
import Mathlib.Tactic.Common

/-!
# What acts ensure

An assertion speaks of the state of a platform and of the calls made of it so far; the notes
are left out, since nothing that the updater does hangs on them. An act is described by an
assertion that it needs and one that it then ensures. There is one rule for each way in which
acts are put together, and one for the acts that are tried again.

An operation of a platform is described in the same way by what it needs of the state and what it
then ensures.
-/

namespace FirmwareUpdate

variable {σ α β : Type}

/-- A statement about the state of a platform and the calls made so far, the latest first. -/
abbrev Assertion (σ : Type) := σ → List Call → Prop

/-- Where an operation goes on from. -/
theorem Op.bind_eq (op : Op σ β) (next : β → Op σ α) (site : Site σ) :
  (op >>= next) site = next (op site).1 (op site).2
  := rfl

/-- Where an act goes on from. -/
theorem Act.bind_eq {act : Act σ β} {next : β → Act σ α} {scene after : Scene σ} {b : β}
    (h : act scene = (b, after)) :
  (act >>= next) scene = next b after
  := by
  change next (act scene).1 (act scene).2 = next b after
  rw [h]

/-- From every scene with `P`, the act leads to a scene that has `Q` with the answer. -/
structure Act.Ensures (P : Assertion σ) (act : Act σ α) (Q : α → Assertion σ) : Prop where
  run : ∀ scene, P scene.state scene.calls →
    Q (act scene).1 (act scene).2.state (act scene).2.calls

/-- The act leads from every scene with `I` to one with `I` again. -/
abbrev Act.Keeps (act : Act σ α) (I : Assertion σ) : Prop :=
  Ensures I act fun _ => I

/-- What a round has to ensure so that trying again keeps `I` and ends with `Q`. -/
def Progress.Allows (I : Assertion σ) (Q : Except Fault α → Assertion σ) :
    Progress α → Assertion σ
  | .ready a => Q (.ok a)
  | .retry _ => I
  | .failed _ => fun state calls => ∀ text, Q (.error (.transport text)) state calls

namespace Act.Ensures

variable {P P' : Assertion σ} {Q Q' : α → Assertion σ} {R : β → Assertion σ}

/-- An act ensures less from more. -/
theorem imp {act : Act σ α} (h : Ensures P act Q)
    (hP : ∀ state calls, P' state calls → P state calls)
    (hQ : ∀ a state calls, Q a state calls → Q' a state calls) :
  Ensures P' act Q'
  := by
  constructor
  intro scene hscene
  apply hQ
  apply h.run
  apply hP _ _ hscene

theorem imp_left {act : Act σ α} (h : Ensures P act Q)
    (hP : ∀ state calls, P' state calls → P state calls) :
  Ensures P' act Q
  := h.imp hP fun _ _ _ h => h

theorem imp_right {act : Act σ α} (h : Ensures P act Q)
    (hQ : ∀ a state calls, Q a state calls → Q' a state calls) :
  Ensures P act Q'
  := h.imp (fun _ _ h => h) hQ

theorem any {act : Act σ α} :
  Ensures P act fun _ _ _ => True
  := ⟨fun _ _ => trivial⟩

/-- What an act ensures from each of two assertions it ensures from both. -/
theorem both {act : Act σ α} (h : Ensures P act Q) (h' : Ensures P' act Q') :
  Ensures (fun state calls => P state calls ∧ P' state calls) act
    (fun a state calls => Q a state calls ∧ Q' a state calls)
  := by
  constructor
  intro scene hscene
  obtain ⟨hP, hP'⟩ := hscene
  use h.run scene hP, h'.run scene hP'

/-- An assertion may be used while an act is followed. -/
theorem of_forall {act : Act σ α}
    (h : ∀ state calls, P state calls → Ensures (fun s c => s = state ∧ c = calls) act Q) :
  Ensures P act Q
  := by
  constructor
  intro scene hscene
  apply (h _ _ hscene).run
  constructor <;> rfl

/-- A fact that does not speak of the scene may be used throughout. -/
theorem of_fact {φ : Prop} {act : Act σ α} (h : φ → Ensures P act Q) :
  Ensures (fun state calls => φ ∧ P state calls) act Q
  := by
  constructor
  intro scene hscene
  obtain ⟨hfact, hscene⟩ := hscene
  apply (h hfact).run scene hscene

theorem pure {a : α} (h : ∀ state calls, P state calls → Q a state calls) :
  Ensures P (Pure.pure a : Act σ α) Q
  := by
  constructor
  intro scene hscene
  apply h _ _ hscene

theorem bind {act : Act σ β} {next : β → Act σ α} (hact : Ensures P act R)
    (hnext : ∀ b, Ensures (R b) (next b) Q) :
  Ensures P (act >>= next) Q
  := by
  constructor
  intro scene hscene
  apply (hnext _).run
  apply hact.run _ hscene

/-- An act whose answer is only looked at in another way. -/
theorem map {act : Act σ β} {f : β → α} (hact : Ensures P act fun b => Q (f b)) :
  Ensures P (act >>= fun b => Pure.pure (f b)) Q
  := by
  apply hact.bind
  intro _
  exact pure fun _ _ h => h

/-- Nothing has to be known of an act if what is ensured holds whatever it answers. -/
theorem map_any {act : Act σ β} {f : β → α} (h : ∀ b state calls, Q (f b) state calls) :
  Ensures P (act >>= fun b => Pure.pure (f b)) Q
  := map (any.imp_right fun b state calls _ => h b state calls)

/-- Notes change nothing that assertions speak of. -/
theorem reportAll {notes : List Note} {Q : Unit → Assertion σ}
    (h : ∀ state calls, P state calls → Q () state calls) :
  Ensures P (reportAll notes : Act σ Unit) Q
  := by
  constructor
  intro scene hscene
  apply h _ _ hscene

theorem bind_reportAll {notes : List Note} {next : Unit → Act σ α}
    (hnext : Ensures P (next ()) Q) :
  Ensures P (FirmwareUpdate.reportAll notes >>= next) Q
  := by
  apply bind (R := fun _ => P)
  · apply reportAll
    intro _ _ h
    apply h
  · intro _
    apply hnext

theorem bind_report {origin text : String} {severity : Severity} {next : Unit → Act σ α}
    (hnext : Ensures P (next ()) Q) :
  Ensures P (report origin severity text >>= next) Q
  := bind_reportAll hnext

/-- A call leaves its entry with the answer, and the state that the operation leads to. -/
theorem perform {op : Op σ α} {entry : α → Call}
    (h : ∀ site calls, P site.state calls →
      Q (op site).1 (op site).2.state (entry (op site).1 :: calls)) :
  Ensures P (perform op entry) Q
  := by
  constructor
  intro scene hscene
  apply h _ _ hscene

theorem bind_perform {op : Op σ β} {entry : β → Call} {next : β → Act σ α}
    (R : β → Assertion σ)
    (hop : ∀ site calls, P site.state calls →
      R (op site).1 (op site).2.state (entry (op site).1 :: calls))
    (hnext : ∀ b, Ensures (R b) (next b) Q) :
  Ensures P (FirmwareUpdate.perform op entry >>= next) Q
  := bind (perform hop) hnext

/-- An act that is tried again keeps what every round keeps that asks for another one. -/
theorem retryFrom {timeout : Duration} {what : String} {act : Act σ (Progress α)}
    {I : Assertion σ} {Q : Except Fault α → Assertion σ} (rounds elapsed : Nat)
    (hact : Ensures I act (Progress.Allows I Q))
    (hfault : ∀ text state calls, I state calls → Q (.error (.transport text)) state calls) :
  Ensures I (retryFrom timeout what act rounds elapsed) Q
  := by
  induction rounds, elapsed using retryFrom.induct timeout with
  | case1 rounds elapsed ih =>
      rw [FirmwareUpdate.retryFrom]
      apply bind hact
      intro progress
      cases progress with
      | ready a =>
          apply pure
          intro _ _ h
          apply h
      | failed message =>
          apply pure
          intro _ _ h
          apply h
      | retry spent =>
          dsimp only [Progress.Allows]
          split
          · apply pure
            apply hfault
          · apply ih spent
            assumption

theorem retry {timeout : Duration} {what : String} {act : Act σ (Progress α)}
    {I : Assertion σ} {Q : Except Fault α → Assertion σ}
    (hact : Ensures I act (Progress.Allows I Q))
    (hfault : ∀ text state calls, I state calls → Q (.error (.transport text)) state calls) :
  Ensures I (retry timeout what act) Q
  := retryFrom 0 0 hact hfault

/-- The first round may do more than the later ones, which keep what it leaves. -/
theorem retry_first {timeout : Duration} {what : String} {act : Act σ (Progress α)}
    {I : Assertion σ} {Q : Except Fault α → Assertion σ}
    (hfirst : Ensures P act (Progress.Allows I Q)) (hact : Ensures I act (Progress.Allows I Q))
    (hfault : ∀ text state calls, I state calls → Q (.error (.transport text)) state calls) :
  Ensures P (FirmwareUpdate.retry timeout what act) Q
  := by
  unfold FirmwareUpdate.retry
  rw [FirmwareUpdate.retryFrom]
  apply bind hfirst
  intro progress
  cases progress with
  | ready a => exact .pure fun _ _ h => h
  | failed message => exact .pure fun _ _ h => h _
  | retry spent =>
      dsimp only [Progress.Allows]
      split
      · apply pure
        apply hfault
      · apply retryFrom _ _ hact hfault

end Act.Ensures

namespace Act.Keeps

variable {I : Assertion σ} {act : Act σ α}

theorem pure {a : α} :
  Keeps (Pure.pure a : Act σ α) I
  := Ensures.pure fun _ _ h => h

theorem bind {act : Act σ β} {next : β → Act σ α} (hact : act.Keeps I)
    (hnext : ∀ b, (next b).Keeps I) :
  (act >>= next).Keeps I
  := Ensures.bind hact hnext

end Act.Keeps

section

variable {act : Act σ α} {next next' : α → Act σ β}

/-- Acts that go on alike from every answer that is ensured. -/
theorem Act.bind_congr_of {P : α → Prop} (hact : Act.Ensures (fun _ _ => True) act fun a _ _ => P a)
    (h : ∀ a, P a → next a = next' a) :
  act >>= next = act >>= next'
  := by
  funext scene
  apply congrFun (h _ (hact.run scene trivial))

end

/-! ### Operations -/

/-- From every state with `P`, the operation leads to a state that has `Q` with the answer. -/
structure Op.Ensures (P : σ → Prop) (op : Op σ α) (Q : α → σ → Prop) : Prop where
  run : ∀ site, P site.state → Q (op site).1 (op site).2.state

namespace Op.Ensures

variable {P P' : σ → Prop} {Q Q' : α → σ → Prop} {R : β → σ → Prop}

theorem imp_left {op : Op σ α} (h : Ensures P op Q) (hP : ∀ state, P' state → P state) :
  Ensures P' op Q
  := ⟨fun site hsite => h.run site (hP _ hsite)⟩

theorem imp_right {op : Op σ α} (h : Ensures P op Q) (hQ : ∀ a state, Q a state → Q' a state) :
  Ensures P op Q'
  := ⟨fun site hsite => hQ _ _ (h.run site hsite)⟩

theorem pure {a : α} (h : ∀ state, P state → Q a state) :
  Ensures P (Pure.pure a : Op σ α) Q
  := by
  constructor
  intro site hsite
  apply h _ hsite

theorem bind {op : Op σ β} {next : β → Op σ α} (hop : Ensures P op R)
    (hnext : ∀ b, Ensures (R b) (next b) Q) :
  Ensures P (op >>= next) Q
  := by
  constructor
  intro site hsite
  rw [Op.bind_eq]
  apply (hnext _).run
  apply hop.run _ hsite

/-- An operation whose answer is not looked at. -/
theorem discard {op : Op σ β} {Q : σ → Prop} (h : Ensures P op fun _ => Q) :
  Ensures P (discard op) fun _ => Q
  := ⟨fun site hsite => h.run site hsite⟩

/-- Notes change nothing of the state. -/
theorem reportAll {notes : List Note} :
  Ensures P (FirmwareUpdate.reportAll notes : Op σ Unit) fun _ => P
  := ⟨fun _ hsite => hsite⟩

theorem bind_reportAll {notes : List Note} {next : Unit → Op σ α}
    (hnext : Ensures P (next ()) Q) :
  Ensures P (FirmwareUpdate.reportAll notes >>= next) Q
  := reportAll.bind fun _ => hnext

theorem bind_report {origin text : String} {severity : Severity} {next : Unit → Op σ α}
    (hnext : Ensures P (next ()) Q) :
  Ensures P (report origin severity text >>= next) Q
  := bind_reportAll hnext

theorem onState {f : σ → α × σ} (h : ∀ state, P state → Q (f state).1 (f state).2) :
  Ensures P (Op.onState f) Q
  := by
  constructor
  intro site hsite
  apply h _ hsite

end Op.Ensures

end FirmwareUpdate
