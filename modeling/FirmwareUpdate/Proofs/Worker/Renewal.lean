import FirmwareUpdate.Proofs.Line.Transfer
import FirmwareUpdate.Proofs.Session.Renewal
import FirmwareUpdate.Proofs.Worker.Course

/-!
# New workers in place of old ones

A worker that has run cycles keeps nothing from them but its configuration and its triggers: a new
worker in its place does the same in the next cycle. What the old one has besides, the pin that it
has read, the number of its next request and its status, is either what the new one comes to as
well, or is not looked at.
-/

namespace FirmwareUpdate

variable {σ ω : Type} {E : σ → σ → Prop} {base base' : List Call} {p : Platform σ ω}

/-! ### Transfers -/

namespace Transfer

/-- The transfer with another number of its request, and another status. -/
def renewed (x : Transfer ω) (id : UInt32) (status : Status) : Transfer ω :=
  { x with stream := { x.stream with id }, status }

/-- The same outcome of transfers that only the number of the request and the status tell apart. -/
def SameTransfer (r r' : Transfer ω × Outcome) : Prop :=
  ∃ id status, r' = (r.1.renewed id status, r.2)

variable {x : Transfer ω} {id : UInt32} {status : Status}

theorem vacate_composed {B : Basis σ} (hB : p.slots.Prepares ≤ B) (x : Transfer ω) :
  (x.vacate p).Composed B
  := by
  unfold vacate
  split
  · apply Act.Composed.bind_report
    apply Programmer.abort_composed hB
  · apply Act.Composed.pure

theorem begin_renewed (hp : p.Respects E) :
  Act.Agree E base base' (x.begin p) ((x.renewed id status).begin p) SameTransfer
  := by
  have hprepares := Slots.prepares_le hp.slots_le
  by_cases hstarted : x.isStarted = true
  · rw [begin_of_started hstarted, begin_of_started (by exact hstarted)]
    exact .pure ⟨id, status, rfl⟩
  · rw [begin_of_not_started hstarted, begin_of_not_started (by exact hstarted)]
    apply Act.Agree.bind_composed (vacate_composed hprepares x)
    rintro ⟨programmer, fault | ⟨⟩⟩
    · exact .pure ⟨id, status, rfl⟩
    apply Act.Agree.bind_composed (Programmer.begin_composed hprepares programmer)
    rintro ⟨programmer, fault | ⟨⟩⟩
    · exact .pure ⟨id, status, rfl⟩
    · exact .pure ⟨id, _, rfl⟩

theorem keep_renewed (hp : p.Respects E) (bytes : Bytes) :
  Act.Agree E base base' (x.keep p bytes) ((x.renewed id status).keep p bytes) SameTransfer
  := by
  have hprepares := Slots.prepares_le hp.slots_le
  apply Act.Agree.bind_composed (Programmer.write_composed hprepares x.programmer bytes)
  rintro ⟨programmer, fault | ⟨⟩⟩
  · apply Act.Agree.bind_report
    apply Act.Agree.bind_composed (Programmer.abort_composed hprepares programmer)
    rintro ⟨programmer, fault | ⟨⟩⟩
    · exact .pure ⟨id, status, rfl⟩
    · exact .pure ⟨id, status, rfl⟩
  · exact .pure ⟨id, status, rfl⟩

theorem store_renewed (hp : p.Respects E) (bytes : Bytes) :
  Act.Agree E base base' (x.store p bytes) ((x.renewed id status).store p bytes) SameTransfer
  := by
  rw [store_eq, store_eq]
  apply (begin_renewed hp).bind
  rintro ⟨x, fault | ⟨⟩⟩ _ ⟨id, status, rfl⟩
  · exact .pure ⟨id, status, rfl⟩
  · apply keep_renewed hp

theorem pump_renewed (hp : p.Respects E) (count : Nat) :
  Act.Agree E base base' (x.pump p count) ((x.renewed id status).pump p count) SameTransfer
  := by
  induction count generalizing x id status with
  | zero => exact .pure ⟨id, status, rfl⟩
  | succ count ih =>
      rw [pump_succ, pump_succ]
      apply (Client.Stream.next_renewed hp x.stream id).bind
      rintro ⟨stream, fault | _ | bytes | _⟩ _ ⟨id, rfl⟩
      · exact .pure ⟨id, status, rfl⟩
      · exact .pure ⟨id, status, rfl⟩
      · have hstore : Act.Agree E base base' (store p { x with stream } bytes)
            (store p (renewed { x with stream } id status) bytes) SameTransfer :=
          store_renewed hp bytes
        apply hstore.bind
        rintro ⟨x, fault | ⟨⟩⟩ _ ⟨id, status, rfl⟩
        · exact .pure ⟨id, status, rfl⟩
        · apply ih
      · exact .pure ⟨id, status, rfl⟩

end Transfer

/-! ### Workers -/

namespace Worker

/-- A worker, and a new one in its place. -/
def Renewed (worker fresh : Worker ω) : Prop :=
  ∃ client status, fresh = { worker with client, status }
    ∧ worker.client.session.Renewed client.session

/-- The same result of workers that only their clients and their status tell apart. -/
def SameResult {α : Type} (r r' : Worker ω × α) : Prop :=
  ∃ client status, r' = ({ r.1 with client, status }, r.2)

variable {worker fresh : Worker ω} {client : Client} {status : Status}

theorem streamImage_renewed (hp : p.Respects E) (h : worker.Renewed fresh) :
  Act.Agree E base base' (worker.streamImage p) (fresh.streamImage p) SameResult
  := by
  obtain ⟨client, status, rfl, hsession⟩ := h
  unfold streamImage
  dsimp only
  split
  · exact .pure ⟨client, status, rfl⟩
  case h_2 request _ =>
  apply (Client.openStream_renewed hp hsession request _).bind
  rintro ⟨client, fault | stream⟩ ⟨freshClient, fault' | freshStream⟩ hopened
  · obtain rfl : fault' = fault := hopened
    exact .pure ⟨freshClient, status, rfl⟩
  · cases hopened
  · cases hopened
  obtain ⟨id, rfl⟩ := hopened
  apply Act.Agree.bind (Transfer.pump_renewed hp UInt64.size)
  rintro ⟨x, outcome⟩ _ ⟨id, status, rfl⟩
  apply Act.Agree.bind_composed
    (Client.Stream.close_composed (hp.transport_le _ _ _ (.unread .hangUp)) x.stream)
  intro session
  obtain fault | ⟨⟩ := outcome
  · exact .pure ⟨_, status, rfl⟩
  · apply Act.Agree.bind_composed (Transfer.complete_composed hp.slots_le x)
    rintro ⟨programmer, result⟩
    exact .pure ⟨_, status, rfl⟩

theorem giveUp_renewed (hp : p.Respects E) :
  Act.Agree E base base' (worker.giveUp p) (giveUp p { worker with client, status })
    fun after after' => ∃ client status, after' = { after with client, status }
  := by
  unfold giveUp
  dsimp only
  split
  · apply Act.Agree.bind_composed
      (Programmer.abort_composed (Slots.prepares_le hp.slots_le) worker.programmer)
    rintro ⟨programmer, _⟩
    exact .pure ⟨client, status, rfl⟩
  · exact .pure ⟨client, status, rfl⟩

theorem applyInstallation_renewed (hp : p.Respects E) (done : Installation) :
  Act.Agree E base base' (worker.applyInstallation p done)
    (applyInstallation p { worker with client, status } done)
    fun after after' => ∃ client status, after' = { after with client, status }
  := by
  unfold applyInstallation
  apply Act.Agree.bind_report
  dsimp only
  split
  · apply Act.Agree.bind_report
    apply Act.Agree.bind_composed (.perform (hp.restarts_le _ _ _ (.restart _)))
    intro _
    exact .pure ⟨client, _, rfl⟩
  · exact .pure ⟨client, _, rfl⟩

theorem download_renewed (hp : p.Respects E) (h : worker.Renewed fresh) :
  Act.Agree E base base' (worker.download p) (fresh.download p) SameResult
  := by
  unfold download
  apply (streamImage_renewed hp h).bind
  rintro ⟨worker, fault | result⟩ _ ⟨client, status, rfl⟩
  · apply Act.Agree.map (giveUp_renewed hp)
    rintro after _ ⟨client, status, rfl⟩
    exact ⟨client, status, rfl⟩
  · cases result with
    | installed done =>
        apply Act.Agree.map (applyInstallation_renewed hp done)
        rintro after _ ⟨client, status, rfl⟩
        exact ⟨client, status, rfl⟩
    | _ => exact .pure ⟨client, _, rfl⟩

theorem readMetadata_renewed (hp : p.Respects E) (body : Bytes) :
  Act.Agree E base base' (worker.readMetadata p body)
    (readMetadata p { worker with client, status } body) SameResult
  := by
  rw [readMetadata_eq, readMetadata_eq]
  apply Act.Agree.bind_reportAll
  apply Act.Agree.bind_reportAll
  apply Act.Agree.bind_reportAll
  dsimp only [assess]
  split
  · split
    case h_1 observe hobserve =>
      apply Act.Agree.bind_composed
        (.perform (hp.observes_le _ _ _ (.observe hobserve _)))
      intro _
      exact .pure ⟨client, status, rfl⟩
    case h_2 => exact .pure ⟨client, status, rfl⟩
  · exact .pure ⟨client, status, rfl⟩

theorem check_renewed (hp : p.Respects E) (h : worker.Renewed fresh) :
  Act.Agree E base base' (worker.check p) (fresh.check p) SameResult
  := by
  obtain ⟨client, status, rfl, hsession⟩ := h
  unfold check
  dsimp only
  split
  · exact .pure ⟨client, status, rfl⟩
  apply (Client.fetch_renewed hp hsession _ _).bind
  rintro ⟨client, _⟩ ⟨freshClient, result⟩ hresult
  obtain rfl := hresult
  obtain fault | body := result
  · exact .pure ⟨freshClient, status, rfl⟩
  · have hread : Act.Agree E base base' (readMetadata p { worker with client } body)
        (readMetadata p { worker with client := freshClient, status } body) SameResult :=
      readMetadata_renewed hp body
    exact hread

/-- A new worker does the same in a cycle. -/
theorem process_renewed (hp : p.Respects E) (h : worker.Renewed fresh) (trigger : Trigger) :
  Act.Agree E base base' (worker.process p trigger) (fresh.process p trigger) SameResult
  := by
  unfold process
  apply Act.Agree.bind (R := SameResult)
  · unfold act
    apply Act.Agree.bind_report
    cases trigger with
    | check => apply check_renewed hp h
    | download => apply download_renewed hp h
  rintro ⟨worker, result⟩ _ ⟨client, status, rfl⟩
  have hrearm : rearm p { worker with client, status } trigger = worker.rearm p trigger := by
    cases trigger with
    | check => rfl
    | download => rfl
  dsimp only
  rw [hrearm]
  apply Act.Agree.bind_composed (rearm_composed hp.timer_le worker trigger)
  intro _
  apply Act.Agree.bind_reportAll
  exact .pure ⟨client, _, rfl⟩

end Worker

end FirmwareUpdate
