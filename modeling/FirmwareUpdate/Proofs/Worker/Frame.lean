import FirmwareUpdate.Proofs.Http.Frame
import FirmwareUpdate.Proofs.Slot.Programming
import FirmwareUpdate.Proofs.Worker.Reading
import FirmwareUpdate.Worker.Cycle

/-!
# What a worker leaves alone

A check reaches the platform through the transport, the timer and the observer only. These
operations have nothing to do with the slots, so what the record tells about the slots stays
true when they are performed.
-/

namespace FirmwareUpdate

variable {σ ω α : Type} {G I : Assertion σ} {p : Platform σ ω}

/-- The operations of a platform that have nothing to do with the slots keep `I`. -/
structure Platform.KeepsAround (p : Platform σ ω) (I : Assertion σ) : Prop where
  transport : p.transport.Keeps I
  arm : ∀ period pending, (perform (p.timer.arm period) (.arm period pending)).Keeps I
  disarm : ∀ pending, (perform p.timer.disarm fun _ => .disarm pending).Keeps I
  restart : ∀ delay, (perform (p.restart delay) fun _ => .restart delay).Keeps I
  observe : ∀ observe, p.observer = some observe →
    ∀ config, (perform (observe config) fun _ => .observe config).Keeps I

/-- All operations of a platform keep `G`. -/
structure Platform.Keeps (p : Platform σ ω) (G : Assertion σ) : Prop
    extends p.KeepsAround G where
  slots : p.slots.Keeps G

namespace Granted

variable {boot : String} {F : List Call → Prop}

theorem foreign {op : Op σ α} {entry : α → Call} (hF : SlotsOnly F)
    (hforeign : ∀ a, (entry a).isForeign = true) (hG : (FirmwareUpdate.perform op entry).Keeps G) :
  (FirmwareUpdate.perform op entry).Keeps (Granted G boot F)
  := by
  apply Granted.perform hG
  intro a calls _ h
  apply hF _ _ (hforeign a) h

end Granted

/-- A transport has nothing to do with the slots. -/
theorem Transport.Performs.isForeign {t : Transport σ} {op : Op σ α} {entry : α → Call}
    (h : t.Performs α op entry) (a : α) :
  (entry a).isForeign = true
  := by
  rcases h with h | _
  · cases h <;> rfl
  · rfl

theorem Transport.Keeps.granted {t : Transport σ} {boot : String} {F : List Call → Prop}
    (ht : t.Keeps G) (hF : SlotsOnly F) :
  t.Keeps (Granted G boot F)
  := by
  apply of_le
  intro α op entry hop
  apply Granted.foreign hF hop.isForeign (ht.performs_le _ _ _ hop)

/-- What surrounds the slots has nothing to do with them. -/
theorem Platform.KeepsAround.granted {boot : String} {F : List Call → Prop}
    (hp : p.KeepsAround G) (hF : SlotsOnly F) :
  p.KeepsAround (Granted G boot F)
  where
  transport := hp.transport.granted hF
  arm period pending := Granted.foreign hF (fun _ => rfl) (hp.arm period pending)
  disarm pending := Granted.foreign hF (fun _ => rfl) (hp.disarm pending)
  restart delay := Granted.foreign hF (fun _ => rfl) (hp.restart delay)
  observe observe hobserve config :=
    Granted.foreign hF (fun _ => rfl) (hp.observe observe hobserve config)

namespace Worker

theorem armTimer_keeps (hp : p.KeepsAround I) (worker : Worker ω) :
  (worker.armTimer p).Keeps I
  := by
  unfold armTimer
  split
  · apply (hp.arm _ _).bind
    intro armed
    split
    · apply Act.Ensures.reportAll
      intro _ _ h
      apply h
    · apply Act.Keeps.pure
  · apply Act.Ensures.bind_report
    apply hp.disarm

theorem rearm_keeps (hp : p.KeepsAround I) (worker : Worker ω) (trigger : Trigger) :
  (worker.rearm p trigger).Keeps I
  := by
  cases trigger with
  | check => apply armTimer_keeps hp
  | download => apply Act.Keeps.pure

/-- What a check leaves as it is of a worker, and what it cannot come to. -/
structure Unmoved (before after : Worker ω) (result : CycleResult) : Prop where
  programmer_eq : after.programmer = before.programmer
  installed_eq : after.status.installed = before.status.installed
  ne_installed : ∀ done, result ≠ .installed done

theorem assess_unmoved (worker : Worker ω) (m : Metadata) :
  Unmoved worker (worker.assess m).1 (worker.assess m).2
  := by
  constructor
  · rfl
  · rfl
  · intro done
    unfold assess Metadata.verdict
    dsimp only
    split
    · split
      · rintro ⟨⟩
      · rintro ⟨⟩
    · rintro ⟨⟩

theorem readMetadata_keeps (hp : p.KeepsAround I) (worker : Worker ω) (body : Bytes) :
  Act.Ensures I (worker.readMetadata p body) fun r state calls =>
    Unmoved worker r.1 r.2 ∧ I state calls
  := by
  rw [readMetadata_eq]
  dsimp only
  apply Act.Ensures.bind_reportAll
  apply Act.Ensures.bind_reportAll
  apply Act.Ensures.bind_reportAll
  split
  · split
    case h_1 observe hobserve =>
      apply Act.Ensures.bind (hp.observe observe hobserve _)
      intro _
      exact .pure fun _ _ h => ⟨assess_unmoved worker _, h⟩
    case h_2 =>
      exact .pure fun _ _ h => ⟨assess_unmoved worker _, h⟩
  · exact .pure fun _ _ h => ⟨assess_unmoved worker _, h⟩

/-- A check moves neither the programmer nor what the platform keeps around the slots. -/
theorem check_keeps (hp : p.KeepsAround I) (worker : Worker ω) :
  Act.Ensures I (worker.check p) fun r state calls =>
    Unmoved worker r.1 r.2 ∧ I state calls
  := by
  unfold check
  split
  · exact .pure fun _ _ h => ⟨⟨rfl, rfl, by simp⟩, h⟩
  · apply Act.Ensures.bind (Client.fetch_keeps hp.transport worker.client _ _)
    intro fetched
    dsimp only
    split
    · exact .pure fun _ _ h => ⟨⟨rfl, rfl, by simp⟩, h⟩
    · apply (readMetadata_keeps hp _ _).imp_right
      intro r _ _ h
      obtain ⟨⟨hprogrammer, hinstalled, hne⟩, h⟩ := h
      use ⟨hprogrammer, hinstalled, hne⟩

end Worker

end FirmwareUpdate
