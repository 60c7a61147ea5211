import FirmwareUpdate.Proofs.Slot.Content
import FirmwareUpdate.Proofs.Worker.Operations
import FirmwareUpdate.Proofs.Worker.Pieces
import FirmwareUpdate.Proofs.Worker.Run
import FirmwareUpdate.Proofs.Worker.Transfer

/-!
# What a download decides

Which image a device runs is decided by selecting a slot for boot and by restarting. A download
that comes to an installation has selected its slot, once, and has then restarted the device if the
configuration says so; any other download has done neither, and the status tells the two apart.
-/

namespace FirmwareUpdate

variable {σ ω : Type}

/-- Whether a call decides what the device runs: it has selected a slot for boot, or it restarts the
device. -/
def Call.isDecisive : Call → Bool
  | .select _ (.ok ()) => true
  | .restart _ => true
  | _ => false

/-- The calls that decide what the device runs. -/
def decisive (calls : List Call) : List Call :=
  calls.filter Call.isDecisive

/-- The selected slot is told by the calls that decide. -/
theorem selected_decisive (boot : String) (calls : List Call) :
  selected boot (decisive calls) = selected boot calls
  := by
  induction calls with
  | nil => rfl
  | cons call calls ih =>
      unfold decisive at ih ⊢
      by_cases hcall : call.isDecisive = true
      · rw [List.filter_cons_of_pos hcall, selected, selected, ih]
      · have hnone : call.selection? = none := by
          unfold Call.selection?
          split
          · apply absurd rfl hcall
          · rfl
        rw [List.filter_cons_of_neg hcall, selected_cons hnone, ih]

/-- The operations that decide nothing. -/
def Undeciding : Basis σ :=
  fun _ _ entry => ∀ a, (entry a).isDecisive = false

/-- An act that is put together from operations that decide nothing decides nothing. -/
theorem Act.Composed.decides_nothing {α : Type} {act : Act σ α} (h : act.Composed Undeciding)
    (F : List Call → Prop) :
  act.Keeps fun _ calls => F (decisive calls)
  := by
  apply h.keeps
  intro α op entry hop
  apply Act.Ensures.perform
  intro site calls hF
  unfold decisive at hF ⊢
  rw [List.filter_cons_of_neg (by simp [hop _])]
  apply hF

theorem Transport.performs_undeciding (t : Transport σ) :
  t.Performs ≤ Undeciding
  := by
  rintro α op entry (hop | capacity)
  · cases hop with
    | _ => exact fun _ => rfl
  · exact fun _ => rfl

theorem Slots.prepares_undeciding (s : Slots σ ω) :
  s.Prepares ≤ Undeciding
  := by
  intro α op entry hop
  cases hop with
  | _ => exact fun _ => rfl

/-- What follows from a result of a transfer for what has been decided. -/
def Decided (before : List Call) : Except Fault CycleResult → List Call → Prop
  | .ok (.installed done), calls => decisive calls = .select done.slot (.ok ()) :: before
  | _, calls => decisive calls = before

/-- What has been decided once a slot has been selected, or could not be. -/
def decidedBySelecting (slot : String) (before : List Call) : Outcome → List Call
  | .ok () => .select slot (.ok ()) :: before
  | .error _ => before

/-- A commit selects the slot of its installation. -/
theorem Programmer.commit_decides (s : Slots σ ω) (programmer : Programmer ω)
    (before : List Call) :
  Act.Ensures (fun _ calls => decisive calls = before) (programmer.commit s)
    (fun r _ calls => Decided before (r.2.map .installed) calls)
  := by
  have hfault : ∀ {programmer : Programmer ω} {fault : Fault},
      Act.Ensures (fun _ calls => decisive calls = before)
        (pure (programmer, .error fault) : Act σ (Programmer ω × Except Fault Installation))
        (fun r _ calls => Decided before (r.2.map .installed) calls) :=
    .pure fun _ _ h => h
  unfold commit
  split
  · apply hfault
  apply Act.Ensures.bind ((Programming.flush_composed s.prepares_undeciding _).decides_nothing
    (· = before))
  rintro ⟨p, fault | ⟨⟩⟩
  · apply Act.Ensures.bind_report
    apply Act.Ensures.bind_perform (fun _ _ calls => decisive calls = before)
    · exact fun _ _ h => h
    · intro _
      apply hfault
  apply Act.Ensures.bind_perform (fun _ _ calls => decisive calls = before)
  · exact fun _ _ h => h
  rintro (fault | ⟨⟩)
  · apply Act.Ensures.bind_report
    apply hfault
  apply Act.Ensures.bind_perform (fun outcome _ calls =>
    decisive calls = decidedBySelecting p.slot before outcome)
  · intro site calls h
    generalize (s.select p.slot site).1 = outcome
    obtain fault | ⟨⟩ := outcome
    · exact h
    · exact congrArg (Call.select p.slot (.ok ()) :: ·) h
  rintro (fault | ⟨⟩)
  · apply Act.Ensures.bind_report
    apply hfault
  · apply Act.Ensures.bind_report
    exact .pure fun _ _ h => h

namespace Transfer

variable {p : Platform σ ω}

theorem complete_decides (x : Transfer ω) (before : List Call) :
  Act.Ensures (fun _ calls => decisive calls = before) (x.complete p)
    (fun r _ calls => Decided before r.2 calls)
  := by
  unfold complete
  apply Act.Ensures.bind_report
  split
  · apply Act.Ensures.bind_report
    split
    · apply Act.Ensures.bind ((Programmer.abort_composed p.slots.prepares_undeciding
        x.programmer).decides_nothing (· = before))
      rintro ⟨programmer, fault | ⟨⟩⟩
      · exact .pure fun _ _ h => h
      · exact .pure fun _ _ h => h
    · exact .pure fun _ _ h => h
  · apply (x.programmer.commit_decides p.slots before).bind
    rintro ⟨programmer, fault | done⟩
    · exact .pure fun _ _ h => h
    · exact .pure fun _ _ h => h

/-- A transfer is of the same worker as another one if its status tells the same installation. -/
def SameStatus (x : Transfer ω) : Transfer ω × Outcome → σ → List Call → Prop :=
  fun r _ _ => r.1.status.installed = x.status.installed

theorem begin_status (x : Transfer ω) :
  Act.Ensures (fun _ _ => True) (x.begin p) x.SameStatus
  := by
  by_cases hstarted : x.isStarted = true
  · rw [begin_of_started hstarted]
    exact .pure fun _ _ _ => rfl
  · rw [begin_of_not_started hstarted]
    apply Act.Ensures.bind .any
    rintro ⟨programmer, _ | ⟨⟩⟩
    · exact .pure fun _ _ _ => rfl
    apply Act.Ensures.bind .any
    rintro ⟨programmer, _ | ⟨⟩⟩
    · exact .pure fun _ _ _ => rfl
    · exact .pure fun _ _ _ => rfl

theorem keep_status (x : Transfer ω) (bytes : Bytes) :
  Act.Ensures (fun _ _ => True) (x.keep p bytes) x.SameStatus
  := by
  apply Act.Ensures.bind .any
  rintro ⟨programmer, fault | ⟨⟩⟩
  · apply Act.Ensures.bind_report
    apply Act.Ensures.bind .any
    rintro ⟨programmer, _ | ⟨⟩⟩
    · exact .pure fun _ _ _ => rfl
    · exact .pure fun _ _ _ => rfl
  · exact .pure fun _ _ _ => rfl

theorem store_status (x : Transfer ω) (bytes : Bytes) :
  Act.Ensures (fun _ _ => True) (x.store p bytes) x.SameStatus
  := by
  rw [store_eq]
  apply (begin_status x).bind
  rintro ⟨after, fault | ⟨⟩⟩
  · exact .pure fun _ _ h => h
  · apply Act.Ensures.of_forall
    intro _ _ hstatus
    apply (keep_status after bytes).imp (fun _ _ _ => trivial)
    exact fun _ _ _ h => h.trans hstatus

/-- Moving an image tells no installation. -/
theorem pump_status (count : Nat) (x : Transfer ω) :
  Act.Ensures (fun _ _ => True) (pump p count x) x.SameStatus
  := by
  induction count generalizing x with
  | zero =>
      rw [pump]
      exact .pure fun _ _ _ => rfl
  | succ count ih =>
      rw [pump]
      apply Act.Ensures.bind .any
      rintro ⟨stream, fault | _ | _ | bytes⟩
      · exact .pure fun _ _ _ => rfl
      · exact .pure fun _ _ _ => rfl
      · apply (store_status { x with stream } _).bind
        rintro ⟨after, fault | ⟨⟩⟩
        · exact .pure fun _ _ h => h
        · apply Act.Ensures.of_forall
          intro _ _ hstatus
          apply (ih after).imp (fun _ _ _ => trivial)
          exact fun _ _ _ h => h.trans hstatus
      · exact .pure fun _ _ _ => rfl

end Transfer

namespace Worker

variable {p : Platform σ ω}

/-- Two workers that are configured alike, and whose status tells the same installation. -/
def SameBut (worker after : Worker ω) : Prop :=
  after.config = worker.config ∧ after.options = worker.options
    ∧ after.status.installed = worker.status.installed

/-- Streaming an image decides what its result says. -/
theorem streamImage_decides (worker : Worker ω) (before : List Call) :
  Act.Ensures (fun _ calls => decisive calls = before) (worker.streamImage p)
    (fun r _ calls => worker.SameBut r.1 ∧ Decided before r.2 calls)
  := by
  unfold streamImage
  split
  · exact .pure fun _ _ h => ⟨⟨rfl, rfl, rfl⟩, h⟩
  case h_2 request _ =>
  have hunread := Transport.unread_le p.transport.performs_undeciding
  have hhears := Transport.hears_le p.transport.performs_undeciding
  apply Act.Ensures.bind
    ((Client.openStream_composed hunread worker.client request _).decides_nothing (· = before))
  rintro ⟨client, fault | stream⟩
  · exact .pure fun _ _ h => ⟨⟨rfl, rfl, rfl⟩, h⟩
  let x : Transfer ω := { stream, programmer := worker.programmer, status := worker.status }
  apply Act.Ensures.bind
  · apply ((Transfer.pump_status UInt64.size x).both
      ((Transfer.pump_composed hhears p.slots.prepares_undeciding _ x).decides_nothing
        (· = before))).imp_left
    exact fun _ _ h => ⟨trivial, h⟩
  rintro ⟨x, outcome⟩
  apply Act.Ensures.of_fact
  intro (hstatus : x.status.installed = worker.status.installed)
  apply Act.Ensures.bind
    ((Client.Stream.close_composed (hunread _ _ _ .hangUp) x.stream).decides_nothing (· = before))
  intro session
  obtain fault | ⟨⟩ := outcome
  · exact .pure fun _ _ h => ⟨⟨rfl, rfl, hstatus⟩, h⟩
  · apply (Transfer.complete_decides x before).bind
    rintro ⟨programmer, result⟩
    exact .pure fun _ _ h => ⟨⟨rfl, rfl, hstatus⟩, h⟩

/-- Giving up an image decides nothing. -/
theorem giveUp_decides (worker : Worker ω) (before : List Call) :
  Act.Ensures (fun _ calls => decisive calls = before) (worker.giveUp p)
    (fun after _ calls => worker.SameBut after ∧ decisive calls = before)
  := by
  unfold giveUp
  split
  · apply Act.Ensures.bind ((Programmer.abort_composed p.slots.prepares_undeciding
      worker.programmer).decides_nothing (· = before))
    intro _
    exact .pure fun _ _ h => ⟨⟨rfl, rfl, rfl⟩, h⟩
  · exact .pure fun _ _ h => ⟨⟨rfl, rfl, rfl⟩, h⟩

/-- An installation is told by the status, and restarts the device if the configuration says
so. -/
theorem applyInstallation_decides (worker : Worker ω) (done : Installation)
    (before : List Call) :
  Act.Ensures (fun _ calls => decisive calls = before) (worker.applyInstallation p done)
    (fun after _ calls => after.status.installed = true
      ∧ decisive calls
        = (if worker.config.autoReboot then [.restart worker.options.rebootDelay] else [])
          ++ before)
  := by
  unfold applyInstallation
  apply Act.Ensures.bind_report
  dsimp only
  split
  · apply Act.Ensures.bind_report
    apply Act.Ensures.bind_perform fun _ _ calls =>
      decisive calls = .restart worker.options.rebootDelay :: before
    · exact fun _ _ h => congrArg (Call.restart _ :: ·) h
    · intro _
      exact .pure fun _ _ h => ⟨rfl, h⟩
  · exact .pure fun _ _ h => ⟨rfl, h⟩

/-- What a download with a result has decided: after an installation its slot is selected, and the
device restarts if the configuration says so. -/
def decisions (worker : Worker ω) (before : List Call) : CycleResult → List Call
  | .installed done =>
    (if worker.config.autoReboot then [.restart worker.options.rebootDelay] else [])
      ++ .select done.slot (.ok ()) :: before
  | _ => before

/-- A download decides what its result says, and its status tells an installation. -/
theorem download_decides (worker : Worker ω) (before : List Call) :
  Act.Ensures (fun _ calls => decisive calls = before) (worker.download p)
    (fun r _ calls => r.1.status.installed = (worker.status.installed || r.2.isInstalled)
      ∧ decisive calls = worker.decisions before r.2)
  := by
  unfold download
  apply (streamImage_decides worker before).bind
  rintro ⟨after, streamed⟩
  apply Act.Ensures.of_fact
  rintro ⟨hconfig, hoptions, hstatus⟩
  dsimp only at hconfig hoptions hstatus
  obtain fault | result := streamed
  · apply Act.Ensures.map
    apply (giveUp_decides after.ended before).imp_right
    rintro last _ _ ⟨⟨-, -, hlast⟩, h⟩
    exact ⟨(hlast.trans hstatus).trans (Bool.or_false _).symm, h⟩
  · cases result with
    | installed done =>
        apply Act.Ensures.map
        apply (applyInstallation_decides after.ended done _).imp_right
        rintro last _ _ ⟨hlast, h⟩
        refine ⟨hlast.trans (Bool.or_true _).symm, ?_⟩
        rw [h]
        change _ = (if worker.config.autoReboot then [.restart worker.options.rebootDelay] else [])
          ++ .select done.slot (.ok ()) :: before
        rw [← hconfig, ← hoptions]
        rfl
    | _ => exact .pure fun _ _ h => ⟨hstatus.trans (Bool.or_false _).symm, h⟩

/-- What is ensured of a download, and speaks of its result and of what the status tells as
installed, is ensured of a cycle with it. -/
theorem process_download_of {worker : Worker ω} {P : Assertion σ}
    {Q : CycleResult → Bool → Assertion σ}
    (h : Act.Ensures P (worker.download p) fun r => Q r.2 r.1.status.installed) :
  Act.Ensures P (worker.process p .download) fun r => Q r.2 r.1.status.installed
  := by
  apply process_download_ensures
  exact .bind_report h

end Worker

end FirmwareUpdate
