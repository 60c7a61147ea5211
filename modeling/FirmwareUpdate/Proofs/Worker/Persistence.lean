import FirmwareUpdate.Proofs.Worker.Assessment
import FirmwareUpdate.Proofs.Worker.Run

/-!
# The record that is kept

A device keeps the configuration that the observer was told last, and starts with it after a
restart. Every cycle that changes the configuration tells the observer, once, so that what is kept
is always what the worker has; and whatever the server announces, only the interval and the path of
the image can become other than they were at the start.

The main statement is `Ran.persists`.
-/

namespace FirmwareUpdate

variable {σ ω : Type} {p : Platform σ ω} {config : Config}

/-- A configuration that differs in the interval and the path of the image at most. -/
def Config.IsRevised (config revised : Config) : Prop :=
  revised = { config with
    pollingInterval := revised.pollingInterval
    firmwarePath := revised.firmwarePath }

namespace Config.IsRevised

theorem trans {revised last : Config} (h : config.IsRevised revised) (h' : revised.IsRevised last) :
  config.IsRevised last
  := by
  unfold IsRevised at h h' ⊢
  rw [h', h]

/-- What is accepted of a configuration does not hang on what can be revised. -/
theorem validate_eq {revised : Config} (h : config.IsRevised revised) :
  revised.validate = config.validate
  := by
  rw [h]
  rfl

end Config.IsRevised

/-- The configuration that is kept after calls, where `config` was kept before them. -/
def persisted (config : Config) (calls : List Call) : Config :=
  (observations calls).head?.getD config

namespace Worker

/-! ### What a cycle tells -/

/-- A download leaves the configuration alone. -/
theorem process_download_config (worker : Worker ω) (scene : Scene σ) :
  (worker.process p .download scene).1.1.config = worker.config
  := by
  have hprocess : Act.Ensures (fun _ _ => True) (worker.process p .download) fun r _ _ =>
      r.1.config = worker.config := by
    apply process_download_ensures
    exact (act_schedule worker).imp_right fun _ _ _ h => h.1
  exact hprocess.run scene trivial

/-- A download has nothing to tell. -/
theorem process_download_observations (worker : Worker ω) (scene : Scene σ) :
  observations (worker.process p .download scene).2.calls = observations scene.calls
  := by
  let φ : Call → Prop := fun call => call.observed? = none
  have htransport : p.transport.Performs ≤ Leaving φ :=
    fun α op entry hop a => (p.transport.performs_aside α op entry hop a).2
  have hslots : p.slots.Performs ≤ Leaving φ := by
    rintro α op entry (hop | slot)
    · cases hop with
      | _ => exact fun _ => rfl
    · exact fun _ => rfl
  have hrestarts : p.Restarts ≤ Leaving φ := by
    rintro α op entry ⟨delay⟩
    exact fun _ => rfl
  have hprocess := (process_download_composed htransport hslots hrestarts worker).leaves scene.calls
  obtain ⟨made, hcalls, hmade⟩ := hprocess.run scene ⟨[], rfl, List.forall_mem_nil _⟩
  rw [hcalls, observations_append hmade]

/-- A cycle tells the observer the configuration if it has changed, and nothing else. -/
theorem process_observations (worker : Worker ω) (trigger : Trigger) (scene : Scene σ) :
  observations (worker.process p trigger scene).2.calls
    = observations (told p worker.config (worker.process p trigger scene).1.1.config)
      ++ observations scene.calls
  := by
  cases trigger with
  | check => exact process_check_observations worker scene
  | download =>
      rw [process_download_config, told_self]
      exact process_download_observations worker scene

/-- Whatever the answers are, a cycle changes only what can be revised. -/
theorem process_revises (worker : Worker ω) (trigger : Trigger) (scene : Scene σ) :
  worker.config.IsRevised (worker.process p trigger scene).1.1.config
  := by
  cases trigger with
  | check =>
      rw [(process_check_judged worker scene).1]
      cases (worker.ask p scene).1.2 with
      | error _ => rfl
      | ok _ => rfl
  | download =>
      rw [process_download_config]
      rfl

/-- What is kept after a cycle is what the worker has, if it was before. -/
theorem persisted_process {worker : Worker ω} {scene : Scene σ}
    (hobserver : p.observer.isSome = true)
    (h : persisted config scene.calls = worker.config) (trigger : Trigger) :
  persisted config (worker.process p trigger scene).2.calls
    = (worker.process p trigger scene).1.1.config
  := by
  unfold persisted at h ⊢
  rw [process_observations]
  by_cases hchanged : (worker.process p trigger scene).1.1.config = worker.config
  · rw [hchanged, told_self]
    exact h
  · rw [told, if_pos ⟨hchanged, hobserver⟩]
    rfl

/-- Setting the timer tells the observer nothing. -/
theorem armTimer_observations (worker : Worker ω) (scene : Scene σ) :
  observations (worker.armTimer p scene).2.calls = observations scene.calls
  := by
  obtain ⟨call, haside, hcalls⟩ := (armTimer_once (p := p) worker scene.calls).run scene rfl
  rw [hcalls, ← List.singleton_append,
    observations_append (List.forall_mem_singleton.mpr haside.observed_eq)]

end Worker

/-! ### Runs -/

/-- The workers and scenes that a run from a configuration can come to. Between two cycles the timer
may be armed, triggers may be requested by others, and anything may happen to the platform. -/
inductive Ran (p : Platform σ ω) (config : Config) : Worker ω → Scene σ → Prop
  | start {options : Options} {version : UInt32} {triggers : Triggers} {site : Site σ}
      {worker : Worker ω} {scene : Scene σ} :
      Worker.start p config options version triggers { toSite := site } = (.ok worker, scene) →
      Ran p config worker scene
  | request {worker : Worker ω} {scene : Scene σ} (triggers : Triggers) :
      Ran p config worker scene →
      Ran p config { worker with triggers } scene
  | happen {worker : Worker ω} {scene : Scene σ} (state : σ) :
      Ran p config worker scene →
      Ran p config worker { scene with state }
  | arm {worker : Worker ω} {scene : Scene σ} :
      Ran p config worker scene →
      Ran p config worker (worker.armTimer p scene).2
  | cycle {worker : Worker ω} {scene : Scene σ} (trigger : Trigger) :
      Ran p config worker scene →
      Ran p config (worker.process p trigger scene).1.1 (worker.process p trigger scene).2

namespace Ran

variable {worker : Worker ω} {scene : Scene σ}

/-- What is known of a run at any time: an observer has been told last what the worker has, and what
the worker has is a revision of a valid configuration. -/
structure Recorded (p : Platform σ ω) (config : Config) (worker : Worker ω) (calls : List Call) :
    Prop where
  persisted_eq : p.observer.isSome = true → persisted config calls = worker.config
  revised : config.IsRevised worker.config
  validate_eq : config.validate = .ok ()

theorem recorded (h : Ran p config worker scene) :
  Recorded p config worker scene.calls
  := by
  induction h with
  | start hstart =>
      have hstartable := Worker.startable_of_start (congrArg Prod.fst hstart)
      rw [hstartable.start_eq] at hstart
      obtain ⟨hworker, rfl⟩ := Prod.mk.inj hstart
      obtain rfl := Except.ok.inj hworker
      exact ⟨fun _ => rfl, rfl, hstartable.validate_eq⟩
  | request triggers _ ih => exact ⟨ih.persisted_eq, ih.revised, ih.validate_eq⟩
  | happen state _ ih => exact ih
  | arm _ ih =>
      refine ⟨?_, ih.revised, ih.validate_eq⟩
      unfold persisted
      rw [Worker.armTimer_observations]
      exact ih.persisted_eq
  | cycle trigger _ ih =>
      refine ⟨?_, ih.revised.trans (Worker.process_revises _ _ _), ih.validate_eq⟩
      exact fun hobserver => Worker.persisted_process hobserver (ih.persisted_eq hobserver) trigger

/-- At any time of a run the configuration that is kept is the one that the worker has. It differs
from the one at the start in what can be revised at most, so that it is valid. A cycle tells the
observer nothing, or it tells it once, and then a configuration that has changed. -/
theorem persists (h : Ran p config worker scene) :
  (p.observer.isSome = true → persisted config scene.calls = worker.config)
    ∧ config.IsRevised worker.config
    ∧ worker.config.validate = .ok ()
    ∧ ∀ trigger after result last,
        worker.process p trigger scene = ((after, result), last) →
        observations last.calls = observations scene.calls
          ∨ after.config ≠ worker.config
            ∧ observations last.calls = after.config :: observations scene.calls
  := by
  obtain ⟨hpersisted, hrevised, hvalid⟩ := h.recorded
  refine ⟨hpersisted, hrevised, hrevised.validate_eq.trans hvalid, ?_⟩
  intro trigger after result last hprocess
  have hobserved := Worker.process_observations (p := p) worker trigger scene
  rw [hprocess] at hobserved
  unfold Worker.told at hobserved
  split at hobserved
  case isTrue htold => exact .inr ⟨htold.1, hobserved⟩
  case isFalse => exact .inl hobserved

end Ran

namespace Bench

/-- The waiting device with an observer. -/
def watched : Platform (List Arrival) String :=
  { waiting with observer := some fun _ => pure () }

theorem watched_told {scene : Scene (List Arrival)} (h : scene.state = sampleArrivals) :
  (Rig.sampleWorker.ask watched scene).1.2 = .ok (utf8 sampleAnnouncement.render)
  := waiting_told h

end Bench

open Bench in
/-- After a device has found version 2, its record has the announced interval and path. -/
theorem Ran.persists_watched :
  ∃ worker scene, Ran watched Rig.sampleConfig worker scene
    ∧ persisted Rig.sampleConfig scene.calls
      = { Rig.sampleConfig with pollingInterval := 60, firmwarePath := samplePath }
    ∧ worker.config.validate = .ok ()
  := by
  let scene : Scene (List Arrival) :=
    { state := sampleArrivals, notes := [Session.startNote Rig.sampleConfig.identity] }
  have hstart : Worker.start watched Rig.sampleConfig {} 1 {}
      { toSite := { state := sampleArrivals } } = (.ok Rig.sampleWorker, scene) := rfl
  have hran : Ran watched Rig.sampleConfig _ _ := (Ran.start hstart).cycle .check
  obtain ⟨hpersisted, -, hvalid, -⟩ := hran.persists
  refine ⟨_, _, hran, ?_, hvalid⟩
  rw [hpersisted rfl, (Worker.process_check_judged Rig.sampleWorker scene).1, watched_told rfl]
  change Rig.sampleConfig.announced (Metadata.parse (utf8 sampleAnnouncement.render)) = _
  rw [Metadata.parse_render sampleAnnouncement_eq]
  rfl

end FirmwareUpdate
