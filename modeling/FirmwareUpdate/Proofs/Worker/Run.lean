import FirmwareUpdate.Proofs.Ensures
import FirmwareUpdate.Worker.Cycle

/-!
# Runs of a worker

A run begins with a new worker and goes on with cycles for any triggers. A run says what every
cycle came to, and which calls had been made when it started and when it ended.
-/

namespace FirmwareUpdate

variable {σ ω : Type}

/-- A cycle of a run: its result, and the calls made so far at its start and at its end. -/
structure Cycle where
  result : CycleResult
  before : List Call
  after : List Call

/-- The workers, the cycles, the latest first, and the scenes that a run can come to from a
site. Between two cycles the timer may be armed, and triggers may be requested by others. -/
inductive Reached (p : Platform σ ω) (site : Site σ) : Worker ω → List Cycle → Scene σ → Prop
  | start {config : Config} {options : Options} {version : UInt32} {triggers : Triggers}
      {worker : Worker ω} {scene : Scene σ} :
      Worker.start p config options version triggers { toSite := site } = (.ok worker, scene) →
      Reached p site worker [] scene
  | request {worker : Worker ω} {cycles : List Cycle} {scene : Scene σ} (triggers : Triggers) :
      Reached p site worker cycles scene →
      Reached p site { worker with triggers } cycles scene
  | arm {worker : Worker ω} {cycles : List Cycle} {scene : Scene σ} :
      Reached p site worker cycles scene →
      Reached p site worker cycles (worker.armTimer p scene).2
  | cycle {worker : Worker ω} {cycles : List Cycle} {scene : Scene σ} (trigger : Trigger) :
      Reached p site worker cycles scene →
      Reached p site (worker.process p trigger scene).1.1
        (⟨(worker.process p trigger scene).1.2, scene.calls,
          (worker.process p trigger scene).2.calls⟩ :: cycles)
        (worker.process p trigger scene).2

namespace Worker

/-- After a download the timer is left alone, so that a cycle ensures what the download does. -/
theorem process_download_ensures {p : Platform σ ω} {worker : Worker ω} {P : Assertion σ}
    {Q : Worker ω × CycleResult → Assertion σ}
    (h : Act.Ensures P (worker.act p .download) fun r =>
      Q ((r.1.complete .download).record r.2, r.2)) :
  Act.Ensures P (worker.process p .download) Q
  := by
  unfold process
  apply h.bind
  rintro ⟨after, result⟩
  unfold rearm
  simp only [pure_bind]
  apply Act.Ensures.bind_reportAll
  exact .pure fun _ _ h => h

/-- A worker that was only just started has called nothing and installed nothing, and has a
closed programmer for the two slots. -/
theorem start_fresh {p : Platform σ ω} {config : Config} {options : Options} {version : UInt32}
    {triggers : Triggers} {I : Assertion σ} :
  Act.Ensures I (start p config options version triggers) fun r state calls =>
    ∀ worker, r = .ok worker → worker.programmer = {} ∧ worker.status = {} ∧ I state calls
  := by
  unfold start
  split
  · exact .pure fun _ _ _ => by rintro _ ⟨⟩
  split
  · exact .pure fun _ _ _ => by rintro _ ⟨⟩
  apply Act.Ensures.bind_reportAll
  split
  · constructor
    rintro _ _ _ ⟨⟩
  · apply Act.Ensures.pure
    rintro _ _ h _ ⟨rfl⟩
    refine ⟨rfl, rfl, h⟩

/-- Whether a worker can be started with a configuration and options. -/
structure Startable (config : Config) (options : Options) : Prop where
  validate_eq : config.validate = .ok ()
  session_eq : Session.start config.identity options.ioTimeout
    = .ok { identity := config.identity, timeout := options.ioTimeout }
  checkBuffers_eq : checkBuffers options = .ok ()

/-- A worker as it is started. -/
def fresh (config : Config) (options : Options) (version : UInt32) (triggers : Triggers) :
    Worker ω :=
  let session := { identity := config.identity, timeout := options.ioTimeout }
  { config, options, runningVersion := version, client := { session }, triggers }

section

variable {p : Platform σ ω} {config : Config} {options : Options} {version : UInt32}
  {triggers : Triggers} {scene : Scene σ}

/-- A worker that can be started is started without a call. -/
theorem Startable.start_eq (h : Startable config options) :
  start p config options version triggers scene
    = (.ok (fresh config options version triggers),
      { scene with notes := Session.startNote config.identity :: scene.notes })
  := by
  obtain ⟨hvalidate, hsession, hbuffers⟩ := h
  unfold start
  rw [hvalidate, hsession, hbuffers]
  rfl

/-- Only workers that can be started are started. -/
theorem startable_of_start {worker : Worker ω}
    (h : (start p config options version triggers scene).1 = .ok worker) :
  Startable config options
  := by
  have hvalidate : config.validate = .ok () := by
    cases hconfig : config.validate with
    | ok => rfl
    | error fault =>
        rw [start, hconfig] at h
        cases h
  have hsession : Session.start config.identity options.ioTimeout
      = .ok { identity := config.identity, timeout := options.ioTimeout } := by
    cases hstart : Session.start config.identity options.ioTimeout with
    | ok session =>
        unfold Session.start at hstart
        split at hstart
        · cases hstart
        split at hstart
        · cases hstart
        split at hstart
        · cases hstart
        · exact hstart.symm
    | error fault =>
        rw [start, hvalidate, hstart] at h
        cases h
  have hbuffers : checkBuffers options = .ok () := by
    cases hcheck : checkBuffers options with
    | ok => rfl
    | error fault =>
        rw [start, hvalidate, hsession, hcheck] at h
        cases h
  use hvalidate, hsession, hbuffers

end

end Worker

end FirmwareUpdate
