import FirmwareUpdate.Proofs.Ensures
import FirmwareUpdate.Proofs.Worker.Reading
import FirmwareUpdate.Worker.Cycle

/-!
# What a cycle changes of its worker

A check fails and changes the client only, or reads metadata and changes what they say. A download
changes neither the configuration nor the triggers, and it announces nothing.
-/

namespace FirmwareUpdate

variable {σ ω : Type} {p : Platform σ ω} {P : Assertion σ}

/-- The file that is announced by a result. -/
def CycleResult.file? : CycleResult → Option String
  | .updateAvailable _ file => some file
  | _ => none

/-- An image that has been installed, or was found empty, announces nothing. -/
theorem Transfer.complete_file (x : Transfer ω) :
  Act.Ensures P (x.complete p) fun r _ _ =>
    ∀ result, r.2 = .ok result → result.file? = none
  := by
  unfold complete
  apply Act.Ensures.bind_report
  split
  · apply Act.Ensures.bind_report
    split
    · apply Act.Ensures.bind .any
      rintro ⟨programmer, fault | ⟨⟩⟩
      · exact .pure fun _ _ _ => by rintro _ ⟨⟩
      · exact .pure fun _ _ _ => by rintro _ ⟨⟩; rfl
    · exact .pure fun _ _ _ => by rintro _ ⟨⟩; rfl
  · apply Act.Ensures.bind .any
    rintro ⟨programmer, fault | done⟩
    · exact .pure fun _ _ _ => by rintro _ ⟨⟩
    · exact .pure fun _ _ _ => by rintro _ ⟨⟩; rfl

namespace Worker

/-- Two workers that only their clients, their programmers and their status tell apart. -/
def SameOrders (worker after : Worker ω) : Prop :=
  ∃ client programmer status, after = { worker with client, programmer, status }

theorem SameOrders.trans {worker middle after : Worker ω} (h : worker.SameOrders middle)
    (h' : middle.SameOrders after) :
  worker.SameOrders after
  := by
  obtain ⟨_, _, _, rfl⟩ := h
  obtain ⟨client, programmer, status, rfl⟩ := h'
  exact ⟨client, programmer, status, rfl⟩

theorem readMetadata_assess (worker : Worker ω) (body : Bytes) :
  Act.Ensures P (worker.readMetadata p body) fun r _ _ =>
    r = worker.assess (Metadata.parse body)
  := by
  rw [readMetadata_eq]
  apply Act.Ensures.bind_reportAll
  apply Act.Ensures.bind_reportAll
  apply Act.Ensures.bind_reportAll
  dsimp only
  split
  · split
    · apply Act.Ensures.bind .any
      intro _
      exact .pure fun _ _ _ => rfl
    · exact .pure fun _ _ _ => rfl
  · exact .pure fun _ _ _ => rfl

/-- A check fails, or acts on the metadata in a file. -/
theorem check_assess (worker : Worker ω) :
  Act.Ensures P (worker.check p) fun r _ _ => ∃ client,
    (∃ fault, r = ({ worker with client }, .failed fault))
      ∨ ∃ body, r = assess { worker with client } (Metadata.parse body)
  := by
  unfold check
  split
  case h_1 fault _ => exact .pure fun _ _ _ => ⟨worker.client, .inl ⟨fault, rfl⟩⟩
  case h_2 request _ =>
    apply Act.Ensures.bind .any
    rintro ⟨client, fault | body⟩
    · exact .pure fun _ _ _ => ⟨client, .inl ⟨fault, rfl⟩⟩
    · apply (readMetadata_assess { worker with client } body).imp_right
      exact fun _ _ _ h => ⟨client, .inr ⟨body, h⟩⟩

theorem streamImage_orders (worker : Worker ω) :
  Act.Ensures P (worker.streamImage p) fun r _ _ => worker.SameOrders r.1
    ∧ ∀ result, r.2 = .ok result → result.file? = none
  := by
  unfold streamImage
  split
  · exact .pure fun _ _ _ => ⟨⟨_, _, _, rfl⟩, by rintro _ ⟨⟩⟩
  apply Act.Ensures.bind .any
  rintro ⟨client, fault | stream⟩
  · exact .pure fun _ _ _ => ⟨⟨_, _, _, rfl⟩, by rintro _ ⟨⟩⟩
  apply Act.Ensures.bind .any
  rintro ⟨x, outcome⟩
  apply Act.Ensures.bind .any
  intro session
  obtain fault | ⟨⟩ := outcome
  · exact .pure fun _ _ _ => ⟨⟨_, _, _, rfl⟩, by rintro _ ⟨⟩⟩
  · apply (Transfer.complete_file (P := fun _ _ => True) x).bind
    intro completed
    exact .pure fun _ _ h => ⟨⟨_, _, _, rfl⟩, h⟩

theorem giveUp_orders (worker : Worker ω) :
  Act.Ensures P (worker.giveUp p) fun after _ _ => worker.SameOrders after
  := by
  unfold giveUp
  split
  · apply Act.Ensures.bind .any
    intro aborted
    exact .pure fun _ _ _ => ⟨_, _, _, rfl⟩
  · exact .pure fun _ _ _ => ⟨_, _, _, rfl⟩

theorem applyInstallation_orders (worker : Worker ω) (done : Installation) :
  Act.Ensures P (worker.applyInstallation p done) fun after _ _ => worker.SameOrders after
  := by
  unfold applyInstallation
  apply Act.Ensures.bind_report
  dsimp only
  split
  · apply Act.Ensures.bind_report
    apply Act.Ensures.bind .any
    intro _
    exact .pure fun _ _ _ => ⟨_, _, _, rfl⟩
  · exact .pure fun _ _ _ => ⟨_, _, _, rfl⟩

/-- A download changes neither the configuration nor the triggers, and announces nothing. -/
theorem download_orders (worker : Worker ω) :
  Act.Ensures P (worker.download p) fun r _ _ =>
    worker.SameOrders r.1 ∧ r.2.file? = none
  := by
  unfold download
  apply (streamImage_orders worker).bind
  rintro ⟨after, streamed⟩
  apply Act.Ensures.of_forall
  rintro _ _ ⟨hafter, hresult⟩
  have hended : worker.SameOrders after.ended := hafter.trans ⟨_, _, _, rfl⟩
  obtain fault | result := streamed
  · apply Act.Ensures.map
    apply (giveUp_orders after.ended).imp_right
    exact fun _ _ _ h => ⟨hended.trans h, rfl⟩
  · cases result with
    | installed done =>
        apply Act.Ensures.map
        apply (applyInstallation_orders after.ended done).imp_right
        exact fun _ _ _ h => ⟨hended.trans h, rfl⟩
    | _ => exact .pure fun _ _ _ => ⟨hended, hresult _ rfl⟩

end Worker

end FirmwareUpdate
