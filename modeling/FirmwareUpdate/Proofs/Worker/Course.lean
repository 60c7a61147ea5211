import FirmwareUpdate.Proofs.Http.Course
import FirmwareUpdate.Proofs.Slot.Custody
import FirmwareUpdate.Proofs.Worker.Operations
import FirmwareUpdate.Proofs.Worker.Pieces
import FirmwareUpdate.Proofs.Worker.Run

/-!
# The course of a cycle

A worker keeps its session and its programmer on their courses, side by side: what is known of
both is led on by the single operations of the platform. A cycle begins and ends at rest, with
nothing connected and nothing being written, by whichever way it ends.
-/

namespace FirmwareUpdate

variable {σ ω : Type}

/-- What is known of a session and a custody, `I`, and what is known of them while a connection is
open that is not established, `J`, goes on from one operation of a platform to the next. -/
structure Platform.Course (p : Platform σ ω) (I J : Session → Hold ω → Assertion σ) : Prop where
  transport : ∀ hold, p.transport.Course (I · hold) (J · hold)
  slots : ∀ session, p.slots.Custody (I session)
  timer : ∀ session, p.timer.Performs ≤ (I session .vacant).Keepers
  restarts : ∀ session, p.Restarts ≤ (I session .vacant).Keepers
  observes : ∀ session, p.Observes ≤ (I session .vacant).Keepers

variable {p : Platform σ ω} {I J : Session → Hold ω → Assertion σ}

namespace Transfer

/-- What is known of a transfer on its way. -/
def Stands (I : Session → Hold ω → Assertion σ) (x : Transfer ω) : Assertion σ :=
  I x.stream.session x.programmer.hold

theorem vacate_course (h : p.Course I J) (x : Transfer ω) :
  Act.Ensures (x.Stands I) (x.vacate p) fun r => I x.stream.session r.1.hold
  := by
  unfold vacate
  split
  · apply Act.Ensures.bind_report
    apply (Programmer.abort_custody (h.slots _)).imp_right
    rintro ⟨programmer, _⟩ _ _ ⟨hnone, hI⟩
    dsimp only at hnone ⊢
    rwa [Programmer.hold, hnone, Option.elim_none]
  · exact .pure fun _ _ hI => hI

theorem begin_course (h : p.Course I J) (x : Transfer ω) :
  Act.Ensures (x.Stands I) (x.begin p) fun r => r.1.Stands I
  := by
  by_cases hstarted : x.isStarted = true
  · rw [begin_of_started hstarted]
    exact .pure fun _ _ hI => hI
  rw [begin_of_not_started hstarted]
  apply (vacate_course h x).bind
  rintro ⟨programmer, fault | ⟨⟩⟩
  · exact .pure fun _ _ hI => hI
  apply (Programmer.begin_custody (h.slots _)).bind
  rintro ⟨programmer, fault | ⟨⟩⟩
  · exact .pure fun _ _ hI => hI
  · exact .pure fun _ _ hI => hI

theorem lose_course (h : p.Course I J) (x : Transfer ω) (programmer : Programmer ω)
    (fault : Fault) :
  Act.Ensures (I x.stream.session programmer.hold) (x.lose p programmer fault)
    fun r => r.1.Stands I
  := by
  unfold lose
  apply Act.Ensures.bind_report
  apply (Programmer.abort_custody (h.slots _)).bind
  rintro ⟨programmer, outcome⟩
  apply Act.Ensures.of_fact
  intro (hnone : programmer.session = none)
  have hhold : programmer.hold = .vacant := by
    rw [Programmer.hold, hnone, Option.elim_none]
  cases outcome with
  | error _ => exact .pure fun _ _ hI => by rwa [Stands, hhold]
  | ok _ => exact .pure fun _ _ hI => by rwa [Stands, hhold]

theorem store_course (h : p.Course I J) (x : Transfer ω) (bytes : Bytes) :
  Act.Ensures (x.Stands I) (x.store p bytes) fun r => r.1.Stands I
  := by
  rw [store_eq]
  apply (begin_course h x).bind
  rintro ⟨x, fault | ⟨⟩⟩
  · exact .pure fun _ _ hI => hI
  apply (Programmer.write_custody (h.slots x.stream.session) bytes).bind
  rintro ⟨programmer, fault | ⟨⟩⟩
  · apply lose_course h { x with size := x.size + bytes.length } programmer fault
  · exact .pure fun _ _ hI => hI

theorem pump_course (h : p.Course I J) (count : Nat) (x : Transfer ω) :
  Act.Ensures (x.Stands I) (x.pump p count) fun r => r.1.Stands I
  := by
  induction count generalizing x with
  | zero =>
      rw [pump]
      exact .pure fun _ _ hI => hI
  | succ count ih =>
      rw [pump]
      apply Act.Ensures.bind
        (Client.Stream.next_course (h.transport x.programmer.hold) x.stream)
      rintro ⟨stream, fault | _ | _ | bytes⟩
      · exact .pure fun _ _ hI => hI
      · exact .pure fun _ _ hI => hI
      · apply (store_course h { x with stream } _).bind
        rintro ⟨x, fault | ⟨⟩⟩
        · exact .pure fun _ _ hI => hI
        · apply ih
      · exact .pure fun _ _ hI => hI

/-- Nothing is being written any more when an image has been installed, or cannot be. -/
theorem complete_course (h : p.Course I J) (session : Session) (x : Transfer ω) :
  Act.Ensures (I session x.programmer.hold) (x.complete p) fun r => r.1.Released (I session)
  := by
  unfold complete
  apply Act.Ensures.bind_report
  split
  · apply Act.Ensures.bind_report
    split
    · apply (Programmer.abort_custody (h.slots session)).bind
      rintro ⟨programmer, fault | ⟨⟩⟩
      · exact .pure fun _ _ hI => hI
      · exact .pure fun _ _ hI => hI
    case isFalse hclosed =>
      have hnone := Option.not_isSome_iff_eq_none.mp hclosed
      rw [Programmer.hold, hnone]
      exact .pure fun _ _ hI => ⟨hnone, hI⟩
  · apply (Programmer.commit_custody (h.slots session)).bind
    rintro ⟨programmer, fault | done⟩
    · exact .pure fun _ _ hI => hI
    · exact .pure fun _ _ hI => hI

end Transfer

namespace Worker

/-- A worker at rest: nothing is being written, nothing is connected, and no update is in
progress. -/
structure Resting (worker : Worker ω) : Prop where
  session_eq : worker.programmer.session = none
  isConnected_eq : worker.client.session.isConnected = false
  inProgress_eq : worker.status.inProgress = false

/-- What is known of a worker at rest. -/
def Rests (I : Session → Hold ω → Assertion σ) (worker : Worker ω) : Assertion σ :=
  fun state calls => worker.Resting ∧ I worker.client.session .vacant state calls

/-- What is known of a worker while or after an image has been streamed: nothing is connected any
more, and nothing is being written unless something has gone wrong. -/
def Streamed (I : Session → Hold ω → Assertion σ) (r : Worker ω × Except Fault CycleResult) :
    Assertion σ :=
  fun state calls => (r.2.isOk → r.1.programmer.session = none)
    ∧ Session.Stands (I · r.1.programmer.hold) false r.1.client.session state calls

theorem streamImage_course (h : p.Course I J) (worker : Worker ω) :
  Act.Ensures (worker.Rests I) (worker.streamImage p) (Streamed I)
  := by
  apply Act.Ensures.of_fact
  rintro ⟨hnone, hclosed, -⟩
  have hhold : worker.programmer.hold = .vacant := by
    rw [Programmer.hold, hnone, Option.elim_none]
  unfold streamImage
  split
  · exact .pure fun _ _ hI => ⟨fun _ => hnone, hclosed, by rwa [hhold]⟩
  case h_2 request _ =>
  apply (Client.openStream_course (h.transport .vacant) worker.client request _).bind
  rintro ⟨client, fault | stream⟩
  · exact .pure fun _ _ hI => ⟨fun _ => hnone, hI.1, by rw [hhold]; exact hI.2⟩
  apply Act.Ensures.bind
  · apply (Transfer.pump_course h UInt64.size
      { stream, programmer := worker.programmer, status := worker.status }).imp_left
    intro _ _ hI
    rw [Transfer.Stands, hhold]
    exact hI
  rintro ⟨x, outcome⟩
  apply (Client.Stream.close_course (h.transport x.programmer.hold) x.stream).bind
  intro session
  apply Act.Ensures.of_fact
  intro hclosed
  obtain fault | ⟨⟩ := outcome
  · exact .pure fun _ _ hI => ⟨by rintro ⟨⟩, hclosed, hI⟩
  · apply (Transfer.complete_course h session x).bind
    rintro ⟨programmer, result⟩
    apply Act.Ensures.pure
    rintro _ _ ⟨hnone, hI⟩
    refine ⟨fun _ => hnone, hclosed, ?_⟩
    dsimp only at hnone ⊢
    rwa [Programmer.hold, hnone, Option.elim_none]

theorem giveUp_course (h : p.Course I J) {worker : Worker ω}
    (hprogress : worker.status.inProgress = false) :
  Act.Ensures (Session.Stands (I · worker.programmer.hold) false worker.client.session)
    (worker.giveUp p) (Rests I)
  := by
  apply Act.Ensures.of_fact
  intro hclosed
  unfold giveUp
  split
  · apply (Programmer.abort_custody (h.slots worker.client.session)).bind
    rintro ⟨programmer, _⟩
    exact .pure fun _ _ hI => ⟨⟨hI.1, hclosed, hprogress⟩, hI.2⟩
  case isFalse hidle =>
    have hnone := Option.not_isSome_iff_eq_none.mp hidle
    rw [Programmer.hold, hnone]
    exact .pure fun _ _ hI => ⟨⟨hnone, hclosed, hprogress⟩, hI⟩

theorem applyInstallation_course (h : p.Course I J) (worker : Worker ω) (done : Installation) :
  Act.Ensures (worker.Rests I) (worker.applyInstallation p done) (Rests I)
  := by
  apply Act.Ensures.of_fact
  rintro ⟨hnone, hclosed, hprogress⟩
  unfold applyInstallation
  apply Act.Ensures.bind_report
  dsimp only
  split
  · apply Act.Ensures.bind_report
    apply Act.Ensures.bind (h.restarts worker.client.session _ _ _ (.restart _))
    intro _
    exact .pure fun _ _ hI => ⟨⟨hnone, hclosed, hprogress⟩, hI⟩
  · exact .pure fun _ _ hI => ⟨⟨hnone, hclosed, hprogress⟩, hI⟩

/-- A download leaves the worker at rest, whatever it comes to. -/
theorem download_course (h : p.Course I J) (worker : Worker ω) :
  Act.Ensures (worker.Rests I) (worker.download p) fun r => r.1.Rests I
  := by
  unfold download
  apply (streamImage_course h worker).bind
  rintro ⟨worker, fault | result⟩
  · apply Act.Ensures.map
    apply (giveUp_course h rfl).imp_left
    exact fun _ _ hI => hI.2
  · apply Act.Ensures.imp_left (P := worker.ended.Rests I)
    · cases result with
      | installed done =>
          apply Act.Ensures.map
          exact applyInstallation_course h worker.ended done
      | _ => exact .pure fun _ _ hI => hI
    · rintro _ _ ⟨hnone, hclosed, hI⟩
      have hnone : worker.programmer.session = none := hnone rfl
      rw [Programmer.hold, hnone] at hI
      exact ⟨⟨hnone, hclosed, rfl⟩, hI⟩

theorem readMetadata_course (h : p.Course I J) (worker : Worker ω) (body : Bytes) :
  Act.Ensures (worker.Rests I) (worker.readMetadata p body) fun r => r.1.Rests I
  := by
  apply Act.Ensures.of_fact
  rintro ⟨hnone, hclosed, hprogress⟩
  rw [readMetadata_eq]
  dsimp only
  apply Act.Ensures.bind_reportAll
  apply Act.Ensures.bind_reportAll
  apply Act.Ensures.bind_reportAll
  split
  · split
    case h_1 observe hobserve =>
      apply Act.Ensures.bind (h.observes worker.client.session _ _ _ (.observe hobserve _))
      intro _
      exact .pure fun _ _ hI => ⟨⟨hnone, hclosed, hprogress⟩, hI⟩
    case h_2 => exact .pure fun _ _ hI => ⟨⟨hnone, hclosed, hprogress⟩, hI⟩
  · exact .pure fun _ _ hI => ⟨⟨hnone, hclosed, hprogress⟩, hI⟩

/-- A check leaves the worker at rest, whatever it comes to. -/
theorem check_course (h : p.Course I J) (worker : Worker ω) :
  Act.Ensures (worker.Rests I) (worker.check p) fun r => r.1.Rests I
  := by
  unfold check
  split
  · exact .pure fun _ _ hI => hI
  apply Act.Ensures.of_fact
  rintro ⟨hnone, -, hprogress⟩
  apply (Client.fetch_course (h.transport .vacant) worker.client _ _).bind
  rintro ⟨client, fault | body⟩
  · exact .pure fun _ _ hI => ⟨⟨hnone, hI.1, hprogress⟩, hI.2⟩
  · apply (readMetadata_course h { worker with client } body).imp_left
    exact fun _ _ hI => ⟨⟨hnone, hI.1, hprogress⟩, hI.2⟩

theorem act_course (h : p.Course I J) (worker : Worker ω) (trigger : Trigger) :
  Act.Ensures (worker.Rests I) (worker.act p trigger) fun r => r.1.Rests I
  := by
  unfold act
  apply Act.Ensures.bind_report
  cases trigger with
  | check => apply check_course h
  | download => apply download_course h

/-- Arming the timer leaves a worker at rest. -/
theorem armTimer_course (h : p.Course I J) (worker : Worker ω) :
  (worker.armTimer p).Keeps (worker.Rests I)
  := by
  apply Act.Ensures.of_fact
  intro hresting
  apply ((armTimer_composed le_rfl worker).keeps (h.timer worker.client.session)).imp_right
  exact fun _ _ _ hI => ⟨hresting, hI⟩

/-- A cycle leaves the worker at rest, its trigger cleared and its result recorded, whatever it
comes to. -/
theorem process_course (h : p.Course I J) (worker : Worker ω) (trigger : Trigger) :
  Act.Ensures (worker.Rests I) (worker.process p trigger) fun r state calls =>
    (r.1.triggers.isPending trigger = false ∧ r.1.status.last = some r.2)
      ∧ r.1.Rests I state calls
  := by
  have hcleared : ∀ triggers : Triggers, (triggers.complete trigger).isPending trigger = false :=
    fun _ => by cases trigger <;> rfl
  unfold process
  apply (act_course h worker trigger).bind
  rintro ⟨worker, result⟩
  apply Act.Ensures.bind (R := fun _ => worker.Rests I)
  · cases trigger with
    | check => apply armTimer_course h
    | download => exact .pure fun _ _ hI => hI
  intro _
  apply Act.Ensures.bind_reportAll
  apply Act.Ensures.pure
  rintro _ _ ⟨⟨hnone, hclosed, hprogress⟩, hI⟩
  exact ⟨⟨hcleared _, rfl⟩, ⟨hnone, hclosed, hprogress⟩, hI⟩

end Worker

/-- A run leaves its worker at rest, and what is known of a new worker is led on by it. -/
theorem Reached.rests {site : Site σ} {worker : Worker ω} {cycles : List Cycle}
    {scene : Scene σ} (h : p.Course I J)
    (hstart : ∀ identity timeout, I { identity, timeout } .vacant site.state [])
    (hreached : Reached p site worker cycles scene) :
  worker.Rests I scene.state scene.calls
  := by
  induction hreached with
  | start hworker =>
      have hstartable := Worker.startable_of_start (congrArg Prod.fst hworker)
      rw [hstartable.start_eq] at hworker
      obtain ⟨⟨rfl⟩, rfl⟩ := Prod.mk.inj hworker
      exact ⟨⟨rfl, rfl, rfl⟩, hstart _ _⟩
  | request triggers _ ih =>
      obtain ⟨⟨hnone, hclosed, hprogress⟩, hI⟩ := ih
      exact ⟨⟨hnone, hclosed, hprogress⟩, hI⟩
  | arm _ ih => apply (Worker.armTimer_course h _).run _ ih
  | cycle trigger _ ih => apply ((Worker.process_course h _ trigger).run _ ih).2

end FirmwareUpdate
