import FirmwareUpdate.Proofs.Http.Frame
import FirmwareUpdate.Proofs.Slot.Frame
import FirmwareUpdate.Proofs.Worker.Reading
import FirmwareUpdate.Worker.Cycle

/-!
# What workers reach

A worker reaches its platform through its client, its programmer and its timer; apart from that
it restarts the device and tells the observer. What a check and a download reach is said
separately, since a check has nothing to do with the slots, and neither has to do with the timer.
-/

namespace FirmwareUpdate

variable {σ ω : Type} {B : Basis σ} {p : Platform σ ω}

/-- The operations of a timer. -/
inductive CheckTimer.Performs (timer : CheckTimer σ) : Basis σ
  | arm (period : Duration) (pending : Triggers) :
      Performs timer _ (timer.arm period) (.arm period pending)
  | disarm (pending : Triggers) : Performs timer _ timer.disarm fun _ => .disarm pending

/-- Restarting the device. -/
inductive Platform.Restarts (p : Platform σ ω) : Basis σ
  | restart (delay : Duration) : Restarts p _ (p.restart delay) fun _ => .restart delay

/-- Telling the observer. -/
inductive Platform.Observes (p : Platform σ ω) : Basis σ
  | observe {observe : Config → Op σ Unit} (hobserve : p.observer = some observe)
      (config : Config) : Observes p _ (observe config) fun _ => .observe config

namespace Transfer

theorem begin_composed (hB : p.slots.Prepares ≤ B) (x : Transfer ω) :
  (x.begin p).Composed B
  := by
  unfold begin
  split
  · apply Act.Composed.pure
  extract_lets _ _ jp
  have hjp : ∀ r, (jp r).Composed B := by
    rintro ⟨programmer, outcome⟩
    dsimp only [jp]
    split
    · apply Act.Composed.pure
    · apply (Programmer.begin_composed hB programmer).bind
      rintro ⟨programmer, outcome⟩
      cases outcome with
      | error _ => apply Act.Composed.pure
      | ok _ => apply Act.Composed.pure
  clear_value jp
  split
  · apply Act.Composed.bind_report
    apply (Programmer.abort_composed hB x.programmer).bind hjp
  · simp only [pure_bind]
    apply hjp

theorem store_composed (hB : p.slots.Prepares ≤ B) (x : Transfer ω) (bytes : Bytes) :
  (x.store p bytes).Composed B
  := by
  unfold store
  apply (begin_composed hB x).bind
  rintro ⟨x, outcome⟩
  cases outcome with
  | error _ => apply Act.Composed.pure
  | ok _ =>
      apply (Programmer.write_composed hB x.programmer bytes).bind
      rintro ⟨programmer, outcome⟩
      cases outcome with
      | ok _ => apply Act.Composed.pure
      | error _ =>
          apply Act.Composed.bind_report
          apply (Programmer.abort_composed hB programmer).bind
          rintro ⟨programmer, outcome⟩
          cases outcome with
          | error _ => apply Act.Composed.pure
          | ok _ => apply Act.Composed.pure

theorem pump_composed (ht : p.transport.Hears ≤ B) (hs : p.slots.Prepares ≤ B) (count : Nat)
    (x : Transfer ω) :
  (pump p count x).Composed B
  := by
  induction count generalizing x with
  | zero =>
      rw [pump]
      apply Act.Composed.pure
  | succ count ih =>
      rw [pump]
      apply (Client.Stream.next_composed ht x.stream).bind
      rintro ⟨stream, fault | _ | _ | bytes⟩
      · apply Act.Composed.pure
      · apply Act.Composed.pure
      · apply (store_composed hs { x with stream } _).bind
        rintro ⟨x, outcome⟩
        cases outcome with
        | error _ => apply Act.Composed.pure
        | ok _ => apply ih
      · apply Act.Composed.pure

theorem complete_composed (hB : p.slots.Performs ≤ B) (x : Transfer ω) :
  (x.complete p).Composed B
  := by
  unfold complete
  apply Act.Composed.bind_report
  split
  · apply Act.Composed.bind_report
    split
    · apply (Programmer.abort_composed (Slots.prepares_le hB) x.programmer).bind
      rintro ⟨programmer, outcome⟩
      cases outcome with
      | error _ => apply Act.Composed.pure
      | ok _ => apply Act.Composed.pure
    · apply Act.Composed.pure
  · apply (Programmer.commit_composed hB x.programmer).bind
    rintro ⟨programmer, outcome⟩
    cases outcome with
    | error _ => apply Act.Composed.pure
    | ok _ => apply Act.Composed.pure

end Transfer

namespace Worker

theorem armTimer_composed (hB : p.timer.Performs ≤ B) (worker : Worker ω) :
  (worker.armTimer p).Composed B
  := by
  unfold armTimer
  split
  · apply (Act.Composed.perform (hB _ _ _ (.arm _ _))).bind
    intro armed
    split
    · apply Act.Composed.reportAll
    · apply Act.Composed.pure
  · apply Act.Composed.bind_report
    apply Act.Composed.perform (hB _ _ _ (.disarm _))

theorem rearm_composed (hB : p.timer.Performs ≤ B) (worker : Worker ω) (trigger : Trigger) :
  (worker.rearm p trigger).Composed B
  := by
  cases trigger with
  | check => apply armTimer_composed hB
  | download => apply Act.Composed.pure

theorem readMetadata_composed (hB : p.Observes ≤ B) (worker : Worker ω) (body : Bytes) :
  (worker.readMetadata p body).Composed B
  := by
  rw [readMetadata_eq]
  dsimp only
  apply Act.Composed.bind_reportAll
  apply Act.Composed.bind_reportAll
  apply Act.Composed.bind_reportAll
  split
  · split
    case h_1 observe hobserve =>
      apply (Act.Composed.perform (hB _ _ _ (.observe hobserve _))).bind
      intro _
      apply Act.Composed.pure
    case h_2 => apply Act.Composed.pure
  · apply Act.Composed.pure

/-- A check reaches the server and the observer. -/
theorem check_composed (ht : p.transport.Performs ≤ B) (ho : p.Observes ≤ B)
    (worker : Worker ω) :
  (worker.check p).Composed B
  := by
  unfold check
  split
  · apply Act.Composed.pure
  · apply (Client.fetch_composed ht worker.client _ _).bind
    rintro ⟨client, fetched⟩
    cases fetched with
    | error _ => apply Act.Composed.pure
    | ok body => apply readMetadata_composed ho

theorem streamImage_composed (ht : p.transport.Performs ≤ B) (hs : p.slots.Performs ≤ B)
    (worker : Worker ω) :
  (worker.streamImage p).Composed B
  := by
  unfold streamImage
  split
  · apply Act.Composed.pure
  apply (Client.openStream_composed (Transport.unread_le ht) worker.client _ _).bind
  rintro ⟨client, opened⟩
  cases opened with
  | error _ => apply Act.Composed.pure
  | ok stream =>
      apply (Transfer.pump_composed (Transport.hears_le ht) (Slots.prepares_le hs) _ _).bind
      rintro ⟨x, outcome⟩
      apply (Client.Stream.close_composed (ht _ _ _ (.unread .hangUp)) x.stream).bind
      intro session
      cases outcome with
      | error _ => apply Act.Composed.pure
      | ok _ => apply (Transfer.complete_composed hs x).map

theorem giveUp_composed (hB : p.slots.Prepares ≤ B) (worker : Worker ω) :
  (worker.giveUp p).Composed B
  := by
  unfold giveUp
  split
  · apply (Programmer.abort_composed hB worker.programmer).map
  · apply Act.Composed.pure

theorem applyInstallation_composed (hB : p.Restarts ≤ B) (worker : Worker ω)
    (done : Installation) :
  (worker.applyInstallation p done).Composed B
  := by
  unfold applyInstallation
  apply Act.Composed.bind_report
  dsimp only
  split
  · apply Act.Composed.bind_report
    apply (Act.Composed.perform (hB _ _ _ (.restart _))).bind
    intro _
    apply Act.Composed.pure
  · apply Act.Composed.pure

/-- A download reaches the server and the slots, and may restart the device. -/
theorem download_composed (ht : p.transport.Performs ≤ B) (hs : p.slots.Performs ≤ B)
    (hr : p.Restarts ≤ B) (worker : Worker ω) :
  (worker.download p).Composed B
  := by
  unfold download
  apply (streamImage_composed ht hs worker).bind
  rintro ⟨worker, streamed⟩
  cases streamed with
  | error _ => apply (giveUp_composed (Slots.prepares_le hs) worker.ended).map
  | ok result =>
      cases result with
      | installed done => apply (applyInstallation_composed hr worker.ended done).map
      | _ => apply Act.Composed.pure

/-- What a trigger asks for reaches everything but the timer. -/
theorem act_composed (ht : p.transport.Performs ≤ B) (hs : p.slots.Performs ≤ B)
    (hr : p.Restarts ≤ B) (ho : p.Observes ≤ B) (worker : Worker ω) (trigger : Trigger) :
  (worker.act p trigger).Composed B
  := by
  unfold act
  apply Act.Composed.bind_report
  cases trigger with
  | check => apply check_composed ht ho
  | download => apply download_composed ht hs hr

/-- A cycle for a download reaches neither the timer nor the observer. -/
theorem process_download_composed (ht : p.transport.Performs ≤ B) (hs : p.slots.Performs ≤ B)
    (hr : p.Restarts ≤ B) (worker : Worker ω) :
  (worker.process p .download).Composed B
  := by
  unfold process act
  apply Act.Composed.bind (.bind_report (download_composed ht hs hr worker))
  rintro ⟨after, result⟩
  unfold rearm
  simp only [pure_bind]
  apply Act.Composed.bind_reportAll
  apply Act.Composed.pure

theorem process_composed (ht : p.transport.Performs ≤ B) (hs : p.slots.Performs ≤ B)
    (htimer : p.timer.Performs ≤ B) (hr : p.Restarts ≤ B) (ho : p.Observes ≤ B)
    (worker : Worker ω) (trigger : Trigger) :
  (worker.process p trigger).Composed B
  := by
  unfold process
  apply (act_composed ht hs hr ho worker trigger).bind
  rintro ⟨after, result⟩
  apply (rearm_composed htimer after trigger).bind
  intro _
  apply Act.Composed.bind_reportAll
  apply Act.Composed.pure

end Worker

end FirmwareUpdate
