import FirmwareUpdate.Worker.Check

/-!
# What metadata mean

What metadata change of a worker, and what a check comes to with them, can be said at once: the
interval and the path become those that have been announced, and the version decides the rest. The
worker gets there in steps, which hand on a flag; in the end the flag is up if and only if the
configuration is not the one that there was before.

The main statement is `Worker.evaluate_takeInterval`.
-/

namespace FirmwareUpdate

variable {σ ω : Type}

/-- The configuration after the given metadata. -/
def Config.announced (config : Config) (m : Metadata) : Config :=
  { config with
    pollingInterval := m.interval.getD config.pollingInterval
    firmwarePath := match m.version, m.file with
      | some _, some file => file.text
      | _, _ => config.firmwarePath }

/-- What metadata mean for a device that runs the given version. -/
def Metadata.verdict (m : Metadata) (running : UInt32) : CycleResult :=
  match m.version, m.file with
  | some version, some file =>
    if version = running then .upToDate version else .updateAvailable version file.text
  | _, _ => .metadataIncomplete

/-- The triggers after a cycle with the given result: an available update is downloaded
next. -/
def CycleResult.request (result : CycleResult) (triggers : Triggers) : Triggers :=
  match result with
  | .updateAvailable _ _ => triggers.request .download
  | _ => triggers

/-- A configuration is another one if its interval or its path has become another one. -/
theorem Config.revised_ne (config : Config) (interval : UInt32) (path : String) :
  decide ({ config with pollingInterval := interval, firmwarePath := path } ≠ config)
    = (decide (interval ≠ config.pollingInterval) || decide (path ≠ config.firmwarePath))
  := by
  rw [← Bool.decide_or, decide_eq_decide, ← Decidable.not_and_iff_not_or_not]
  obtain ⟨⟩ := config
  simp only [ne_eq, Config.mk.injEq, true_and, and_comm]

namespace Worker

/-- The worker after it has read the metadata, and what they mean. -/
def assess (worker : Worker ω) (m : Metadata) : Worker ω × CycleResult :=
  let result := m.verdict worker.runningVersion
  ({ worker with
      config := worker.config.announced m
      triggers := result.request worker.triggers },
    result)

theorem takeInterval_eq (worker : Worker ω) (m : Metadata) :
  worker.takeInterval m
    = ({ worker with config := { worker.config with
          pollingInterval := m.interval.getD worker.config.pollingInterval } },
      decide (m.interval.getD worker.config.pollingInterval ≠ worker.config.pollingInterval))
  := by
  unfold takeInterval
  split
  case h_1 hnone =>
    rw [hnone]
    simp
  case h_2 interval hsome =>
    rw [hsome]
    split
    case isTrue hsame => simp [hsame]
    case isFalse hother => simp [hother]

theorem takePath_eq (worker : Worker ω) (path : String) (changed : Bool) :
  worker.takePath path changed
    = ({ worker with config := { worker.config with firmwarePath := path } },
      changed || decide (path ≠ worker.config.firmwarePath))
  := by
  unfold takePath
  split
  case isTrue hsame => simp [← hsame]
  case isFalse hother => simp [Ne.symm hother]

theorem evaluate_eq (worker : Worker ω) (m : Metadata) (changed : Bool) :
  worker.evaluate m changed
    = ({ worker with
        config := { worker.config with
          firmwarePath := (worker.config.announced m).firmwarePath }
        triggers := (m.verdict worker.runningVersion).request worker.triggers },
      m.verdict worker.runningVersion,
      changed || decide ((worker.config.announced m).firmwarePath ≠ worker.config.firmwarePath))
  := by
  obtain ⟨_ | version, _ | file, interval⟩ := m
  case some.some =>
    unfold evaluate Metadata.verdict
    dsimp only
    rw [takePath_eq]
    by_cases hversion : version = worker.runningVersion
    · rw [if_pos hversion, if_pos hversion]
      rfl
    · rw [if_neg hversion, if_neg hversion]
      rfl
  -- nothing is taken over, and the flag stays as it is
  all_goals
    simp [evaluate, Config.announced, Metadata.verdict, CycleResult.request]

/-- The two steps make of the worker what the metadata mean, and the flag tells whether its
configuration has changed. -/
theorem evaluate_takeInterval (worker : Worker ω) (m : Metadata) :
  (worker.takeInterval m).1.evaluate m (worker.takeInterval m).2
    = ((worker.assess m).1, (worker.assess m).2,
      decide ((worker.assess m).1.config ≠ worker.config))
  := by
  have hflag : decide ((worker.assess m).1.config ≠ worker.config) = _ :=
    worker.config.revised_ne _ _
  rw [hflag, takeInterval_eq, evaluate_eq]
  rfl

/-- Reading metadata makes of the worker what they mean, and tells the observer if the configuration
has changed. -/
theorem readMetadata_eq (p : Platform σ ω) (worker : Worker ω) (body : Bytes) :
  worker.readMetadata p body = (do
    let m := Metadata.parse body
    reportAll (Metadata.parseNotes body)
    reportAll (m.intervalNotes worker.config)
    reportAll (m.verdictNotes worker.runningVersion)
    let (after, result) := worker.assess m
    let changed := decide (after.config ≠ worker.config)
    if changed then
      if let some observe := p.observer then
        perform (observe after.config) fun _ => .observe after.config
    return (after, result))
  := by
  have hread := worker.evaluate_takeInterval (Metadata.parse body)
  have hversion : (worker.takeInterval (Metadata.parse body)).1.runningVersion
      = worker.runningVersion := by
    rw [takeInterval_eq]
  unfold readMetadata
  dsimp only
  rw [hversion]
  generalize (worker.takeInterval _).1.evaluate _ _ = read at hread ⊢
  obtain rfl := hread
  rfl

end Worker

end FirmwareUpdate
