import FirmwareUpdate.Proofs.Worker.Answers
import FirmwareUpdate.Proofs.Worker.Course

/-!
# Workers in service

Whatever a worker is asked for, it goes on with the same settings: metadata change the path and the
interval only. So its configuration would still be accepted, its session serves the server of this
configuration, and it has read no other pin than a new session would.
-/

namespace FirmwareUpdate

variable {σ ω : Type} {p : Platform σ ω}

/-- Whatever is done with a platform, the session serves the same server. -/
theorem Platform.course_serves (p : Platform σ ω) (identity : Identity) (timeout : Duration) :
  p.Course (fun session _ _ _ => session.Serves identity timeout)
    (fun session _ _ _ => session.Serves identity timeout)
  where
  transport _ := p.transport.course_serves identity timeout
  slots _ :=
    { bootLabel := .perform fun _ _ h => h
      openWriter := fun slot => .perform fun site _ h => by
        cases (p.slots.openWriter slot site).1 <;> exact h
      write := fun _ _ _ => .perform fun _ _ h => h
      finish := fun writer _ => .perform fun site _ h => by
        cases (p.slots.finish writer site).1 <;> exact h
      discard := fun _ _ => .perform fun _ _ h => h
      select := fun _ => .perform fun _ _ h => h }
  timer _ := fun _ _ _ _ => .perform fun _ _ h => h
  restarts _ := fun _ _ _ _ => .perform fun _ _ h => h
  observes _ := fun _ _ _ _ => .perform fun _ _ h => h

namespace Worker

/-- What metadata do not change: the options and the version, and all of the configuration but the
path and the interval. -/
def SameSettings (worker after : Worker ω) : Prop :=
  after.options = worker.options ∧ after.runningVersion = worker.runningVersion
    ∧ ∃ firmwarePath pollingInterval,
      after.config = { worker.config with firmwarePath, pollingInterval }

theorem act_settings (worker : Worker ω) (trigger : Trigger) {P : Assertion σ} :
  Act.Ensures P (worker.act p trigger) fun r _ _ => worker.SameSettings r.1
  := by
  unfold act
  apply Act.Ensures.bind_report
  cases trigger with
  | check =>
      apply (check_assess worker).imp_right
      rintro _ _ _ ⟨client, ⟨fault, rfl⟩ | ⟨body, rfl⟩⟩
      · exact ⟨rfl, rfl, _, _, rfl⟩
      · exact ⟨rfl, rfl, _, _, rfl⟩
  | download =>
      apply (download_orders worker).imp_right
      rintro ⟨_, result⟩ _ _ ⟨⟨client, programmer, status, h⟩, -⟩
      obtain rfl := h
      exact ⟨rfl, rfl, _, _, rfl⟩

/-- A worker in place of which a new one can be started. -/
structure Renewable (worker : Worker ω) : Prop where
  startable : Startable worker.config worker.options
  serves : worker.client.session.Serves worker.config.identity worker.options.ioTimeout
  resting : worker.Resting

/-- A worker that was only just started is as good as new. -/
theorem renewable_of_start {config : Config} {options : Options} {version : UInt32}
    {triggers : Triggers} {worker : Worker ω} {scene : Scene σ}
    (h : (start p config options version triggers scene).1 = .ok worker) :
  worker.Renewable
  := by
  have hstartable := startable_of_start h
  rw [hstartable.start_eq] at h
  obtain rfl := Except.ok.inj h
  exact ⟨hstartable, ⟨rfl, rfl, by rintro _ ⟨⟩, by rintro _ ⟨⟩⟩, ⟨rfl, rfl, rfl⟩⟩

/-- Neither its triggers nor the last result matter. -/
theorem Renewable.update {worker : Worker ω} (h : worker.Renewable) (triggers : Triggers)
    (last : Option CycleResult) :
  Renewable { worker with triggers, status := { worker.status with last } }
  := ⟨h.startable, h.serves, ⟨h.resting.session_eq, h.resting.isConnected_eq,
    h.resting.inProgress_eq⟩⟩

/-- Whatever a worker is asked for, a new one can be started in place of it then. -/
theorem act_renewable {worker : Worker ω} (h : worker.Renewable) (trigger : Trigger) :
  Act.Ensures (fun _ _ => True) (worker.act p trigger) fun r _ _ => r.1.Renewable
  := by
  obtain ⟨hstartable, hserves, hresting⟩ := h
  have hcourse := p.course_serves worker.config.identity worker.options.ioTimeout
  have hact := (act_course hcourse worker trigger).both
    (act_settings (P := fun _ _ => True) worker trigger)
  apply hact.imp
  · exact fun _ _ _ => ⟨⟨hresting, hserves⟩, trivial⟩
  · rintro r _ _ ⟨⟨hresting, hserves⟩, hoptions, -, firmwarePath, pollingInterval, hconfig⟩
    constructor
    · rw [hoptions, hconfig]
      exact ⟨hstartable.validate_eq, hstartable.session_eq, hstartable.checkBuffers_eq⟩
    · rw [hoptions, hconfig]
      exact hserves
    · exact hresting

/-- A cycle leaves a worker in place of which a new one can be started. -/
theorem process_renewable {worker : Worker ω} (h : worker.Renewable) (trigger : Trigger) :
  Act.Ensures (fun _ _ => True) (worker.process p trigger) fun r _ _ => r.1.Renewable
  := by
  unfold process
  apply (act_renewable h trigger).bind
  rintro ⟨after, result⟩
  apply Act.Ensures.of_forall
  intro _ _ hafter
  apply Act.Ensures.bind .any
  intro _
  apply Act.Ensures.bind_reportAll
  exact .pure fun _ _ _ => hafter.update _ _

end Worker

end FirmwareUpdate
