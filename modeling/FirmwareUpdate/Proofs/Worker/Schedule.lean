import FirmwareUpdate.Proofs.Bench.Download
import FirmwareUpdate.Proofs.Worker.Answers
import FirmwareUpdate.Proofs.Worker.Operations
import FirmwareUpdate.Worker.Updater

/-!
# The schedule of the checks

The loop of a worker is interleaved with everything that happens around it: the deadline of the
timer passes, the application asks for a check, the network comes and goes, and the worker is
shut down. A deadline that passes clears itself and requests a check, in one step.

After a check the timer is armed before the trigger is cleared, in two steps. A deadline that
passes between them sets a trigger that is cleared with the next step, so that neither a deadline
nor a trigger is left; this is the only way in which the schedule of a blocked worker ends.
-/

namespace FirmwareUpdate

variable {σ ω : Type}

/-- What there is to a one-shot timer in the state of its platform: whether it holds a deadline,
and what becomes of the state when the deadline passes. -/
structure Deadline (σ : Type) where
  isPending : σ → Bool
  pass : σ → σ

/-- Whether the timer holds a deadline. -/
def Deadline.Shows (d : Deadline σ) (isPending : Bool) : Assertion σ :=
  fun state _ => d.isPending state = isPending

/-- A platform whose timer holds a deadline after it has been armed, and none after it has been
disarmed or the deadline has passed. Nothing else has to do with it. -/
structure Platform.Ticks (p : Platform σ ω) (d : Deadline σ) : Prop where
  arm : ∀ period site, (p.timer.arm period site).1 = .ok () →
    d.isPending (p.timer.arm period site).2.state = true
  disarm : ∀ site, d.isPending (p.timer.disarm site).2.state = false
  pass : ∀ state, d.isPending (d.pass state) = false
  transport : ∀ isPending, p.transport.Keeps (d.Shows isPending)
  slots : ∀ isPending, p.slots.Keeps (d.Shows isPending)
  restart : ∀ isPending, p.Restarts ≤ (d.Shows isPending).Keepers
  observe : ∀ isPending, p.Observes ≤ (d.Shows isPending).Keepers

/-- What happens to an updater: its worker makes a step, the deadline of its timer passes, the
application asks for a check, the network goes up or down, or the worker is shut down. -/
inductive Event
  | step
  | expiry
  | checkNow
  | network (isConnected : Bool)
  | shutDown
deriving DecidableEq, Repr

/-- What has happened, the latest first, with the phases in which the worker was. -/
abbrev Trace := List (Phase × Event)

/-- Whether the last deadline has passed between the arming of the timer after a check and the
clearing of the trigger. -/
def Trace.isTickLost : Trace → Bool
  | [] => false
  | (.rearming .check _, .step) :: _ => false
  | (.completing .check _, .expiry) :: _ => true
  | (_, .expiry) :: _ => false
  | _ :: earlier => isTickLost earlier

/-- A step that does not arm the timer after a check does not change whether the last tick was
lost. -/
theorem Trace.isTickLost_step {phase : Phase} (h : ∀ result, phase ≠ .rearming .check result)
    (trace : Trace) :
  isTickLost ((phase, .step) :: trace) = trace.isTickLost
  := by
  cases phase with
  | rearming trigger result =>
      cases trigger with
      | check => apply absurd rfl (h result)
      | download => rfl
  | completing trigger result => cases trigger <;> rfl
  | _ => rfl

/-- Neither does anything that is neither a step nor a passing deadline. -/
theorem Trace.isTickLost_other {event : Event} (hstep : event ≠ .step) (hexpiry : event ≠ .expiry)
    (phase : Phase) (trace : Trace) :
  isTickLost ((phase, event) :: trace) = trace.isTickLost
  := by
  cases event with
  | step => apply absurd rfl hstep
  | expiry => apply absurd rfl hexpiry
  | _ =>
      cases phase with
      | rearming trigger result => cases trigger <;> rfl
      | completing trigger result => cases trigger <;> rfl
      | _ => rfl

/-- Whether a call is an arming of the timer that has failed. -/
def Call.isFailedArm : Call → Bool
  | .arm _ _ (.error _) => true
  | _ => false

/-- No arming of the timer has failed. -/
abbrev ArmsSucceed (calls : List Call) : Prop :=
  ∀ call ∈ calls, call.isFailedArm = false

namespace Updater

/-- The updaters and the scenes that can be come to from a worker, with what has happened. The
events come in any order; the deadline can pass whenever there is one. The arming of the timer
does not fail. -/
inductive Interleaved (p : Platform σ ω) (d : Deadline σ) : Trace → Updater ω → Scene σ → Prop
  | spawn {worker : Worker ω} {connectivity : Connectivity} {scene : Scene σ} :
      ArmsSucceed (spawn p worker connectivity scene).2.calls →
      Interleaved p d [] (spawn p worker connectivity scene).1
        (spawn p worker connectivity scene).2
  | step {trace : Trace} {u next : Updater ω} {scene : Scene σ} :
      Interleaved p d trace u scene → (u.step p scene).1 = some next →
      ArmsSucceed (u.step p scene).2.calls →
      Interleaved p d ((u.phase, .step) :: trace) next (u.step p scene).2
  | expiry {trace : Trace} {u : Updater ω} {scene : Scene σ} :
      Interleaved p d trace u scene → d.isPending scene.state = true →
      Interleaved p d ((u.phase, .expiry) :: trace) (u.request .check)
        { scene with state := d.pass scene.state }
  | checkNow {trace : Trace} {u next : Updater ω} {scene : Scene σ} :
      Interleaved p d trace u scene → u.checkNow = .ok next →
      Interleaved p d ((u.phase, .checkNow) :: trace) next scene
  | network {trace : Trace} {u : Updater ω} {scene : Scene σ} (isConnected : Bool) :
      Interleaved p d trace u scene →
      Interleaved p d ((u.phase, .network isConnected) :: trace) (u.setConnected isConnected) scene
  | shutDown {trace : Trace} {u : Updater ω} {scene : Scene σ} :
      Interleaved p d trace u scene →
      Interleaved p d ((u.phase, .shutDown) :: trace) u.shutDown scene

/-- What is provided for the next check in a phase of the loop, if there are periodic checks: a
deadline or a trigger, unless the last tick was lost. Between a check and the arming of the timer
nothing has to be, since the timer is armed next; and the trigger that is cleared next does not
count. -/
def Provided (isPending : Bool) (isLost : Bool) (u : Updater ω) : Prop :=
  match u.phase with
  | .rearming .check _ | .disarming | .leaving | .gone => True
  | .completing .check _ =>
    u.worker.config.period ≠ none → isPending = true ∨ isLost = true
  | _ =>
    u.worker.config.period ≠ none →
      isPending = true ∨ u.worker.triggers.check = true ∨ isLost = true

end Updater

/-! ### What the steps of a worker do -/

/-- No check is pending for a worker that is blocked. -/
theorem Triggers.check_of_blocked {triggers : Triggers} (h : triggers.next = .blocked) :
  triggers.check = false
  := by
  unfold next first? at h
  cases hcheck : triggers.check with
  | false => rfl
  | true =>
      rw [hcheck] at h
      split at h
      · cases h
      · split at h
        · cases h
        case h_2 hnone => split at hnone <;> cases hnone

/-- A download changes neither the configuration nor the triggers of a worker. -/
def Worker.SameSchedule (before after : Worker ω) : Prop :=
  after.config = before.config ∧ after.triggers = before.triggers

namespace Worker

variable {p : Platform σ ω} {P : Assertion σ}

theorem act_schedule (worker : Worker ω) :
  Act.Ensures P (worker.act p .download) fun r _ _ => worker.SameSchedule r.1
  := by
  unfold act
  apply Act.Ensures.bind_report
  apply (download_orders worker).imp_right
  rintro ⟨_, result⟩ _ _ ⟨⟨client, programmer, status, h⟩, -⟩
  obtain rfl := h
  exact ⟨rfl, rfl⟩

end Worker

namespace Updater

variable {p : Platform σ ω} {d : Deadline σ} {trace : Trace} {u next : Updater ω}
  {scene : Scene σ}

/-- What is known of an updater at any time: what is provided for the next check, and that there
is no deadline after a tick was lost. -/
structure Kept (d : Deadline σ) (trace : Trace) (u : Updater ω) (state : σ) : Prop where
  provided : u.Provided (d.isPending state) trace.isTickLost
  lost : trace.isTickLost = true → d.isPending state = false

/-- An act that has nothing to do with the timer leaves it alone. -/
theorem isPending_of_composed {α : Type} {act : Act σ α}
    (h : ∀ isPending, act.Composed (d.Shows isPending).Keepers) (scene : Scene σ) :
  d.isPending (act scene).2.state = d.isPending scene.state
  := ((h _).keeps le_rfl).run scene rfl

/-- What a trigger asks for has nothing to do with the timer. -/
theorem act_isPending (hp : p.Ticks d) (worker : Worker ω) (trigger : Trigger)
    (scene : Scene σ) :
  d.isPending (worker.act p trigger scene).2.state = d.isPending scene.state
  := isPending_of_composed (fun _ => Worker.act_composed (hp.transport _).performs_le
    (hp.slots _).performs_le (hp.restart _) (hp.observe _) worker trigger) scene

theorem close_isPending (hp : p.Ticks d) (worker : Worker ω) (scene : Scene σ) :
  d.isPending (worker.close p scene).2.state = d.isPending scene.state
  := isPending_of_composed (fun _ => Session.close_composed
    (Transport.unread_le (hp.transport _).performs_le) worker.client.session) scene

/-- Looking at the shared flags changes nothing that is provided. -/
theorem look_provided {isPending isLost : Bool} {phase : Phase} (hlook : u.look = some phase)
    (h : u.Provided isPending isLost) :
  Provided isPending isLost { u with phase }
  := by
  obtain ⟨worker, connectivity, current⟩ := u
  cases current with
  | waiting purpose =>
      simp only [look] at hlook
      split at hlook
      · obtain rfl := Option.some.inj hlook
        apply h
      · split at hlook
        · obtain rfl := Option.some.inj hlook
          cases purpose <;> trivial
        · cases hlook
  | admitted purpose =>
      obtain rfl := Option.some.inj hlook
      dsimp only [look]
      split
      · cases purpose <;> trivial
      · cases purpose <;> apply h
  | settling =>
      obtain rfl := Option.some.inj hlook
      apply h
  | idle =>
      simp only [look] at hlook
      split at hlook
      · obtain rfl := Option.some.inj hlook
        trivial
      · obtain rfl := Option.some.inj hlook
        apply h
      · cases hlook
  | _ => cases hlook

/-- Arming the timer leaves a deadline, if there are periodic checks. -/
theorem armTimer_pending (hp : p.Ticks d) (worker : Worker ω) {P : Assertion σ} :
  Act.Ensures P (worker.armTimer p) fun _ state calls =>
    worker.config.period ≠ none → ArmsSucceed calls → d.isPending state = true
  := by
  unfold Worker.armTimer
  split
  case h_1 period hperiod =>
    apply Act.Ensures.bind_perform
      (R := fun outcome state calls => (outcome = .ok () → d.isPending state = true)
        ∧ ∃ earlier, calls = .arm period worker.triggers outcome :: earlier)
    · intro site calls _
      exact ⟨hp.arm period site, calls, rfl⟩
    · intro outcome
      cases outcome with
      | error fault =>
          apply Act.Ensures.reportAll
          rintro state _ ⟨-, earlier, rfl⟩ - harms
          cases harms _ List.mem_cons_self
      | ok _ =>
          apply Act.Ensures.pure
          rintro state _ ⟨hpending, -⟩ - -
          apply hpending rfl
  case h_2 hnone =>
    constructor
    intro _ _ hperiod
    apply absurd hnone hperiod

/-- A step that only looks at the flags keeps what is known. -/
theorem Kept.look (h : Kept d trace u scene.state)
    (hlook : (u.look.map fun phase => { u with phase }) = some next) :
  Kept d ((u.phase, .step) :: trace) next scene.state
  := by
  obtain ⟨phase, hphase, rfl⟩ := Option.map_eq_some_iff.mp hlook
  have htrace : Trace.isTickLost ((u.phase, .step) :: trace) = trace.isTickLost := by
    apply Trace.isTickLost_step
    intro result hrearming
    rw [Updater.look, hrearming] at hphase
    cases hphase
  constructor
  · rw [htrace]
    apply look_provided hphase h.provided
  · rw [htrace]
    apply h.lost

/-- A step of the worker keeps what is known. -/
theorem Kept.step (hp : p.Ticks d) (h : Kept d trace u scene.state)
    (hstep : (u.step p scene).1 = some next) (harms : ArmsSucceed (u.step p scene).2.calls) :
  Kept d ((u.phase, .step) :: trace) next (u.step p scene).2.state
  := by
  obtain ⟨worker, connectivity, phase⟩ := u
  cases phase with
  | starting =>
      obtain rfl := Option.some.inj hstep
      exact ⟨h.provided, h.lost⟩
  | waiting purpose => apply h.look hstep
  | admitted purpose => apply h.look hstep
  | settling => apply h.look hstep
  | idle => apply h.look hstep
  | acting trigger =>
      obtain ⟨hnext, hscene⟩ : next = ⟨(worker.act p trigger scene).1.1, connectivity,
            .rearming trigger (worker.act p trigger scene).1.2⟩
          ∧ (Updater.step p ⟨worker, connectivity, .acting trigger⟩ scene).2
            = (worker.act p trigger scene).2 :=
        ⟨(Option.some.inj hstep).symm, rfl⟩
      have hpending := act_isPending hp worker trigger scene
      rw [hnext, hscene]
      cases trigger with
      | check => exact ⟨trivial, fun hlost => hpending.trans (h.lost hlost)⟩
      | download =>
          obtain ⟨hconfig, htriggers⟩ :=
            (Worker.act_schedule (P := fun _ _ => True) worker).run scene trivial
          refine ⟨?_, fun hlost => hpending.trans (h.lost hlost)⟩
          rw [hpending]
          intro hperiod
          dsimp only at hperiod ⊢
          rw [hconfig] at hperiod
          rw [htriggers]
          apply h.provided hperiod
  | rearming trigger result =>
      obtain rfl := Option.some.inj hstep
      cases trigger with
      | check =>
          constructor
          · intro hperiod
            left
            apply (armTimer_pending (P := fun _ _ => True) hp worker).run scene trivial hperiod
              harms
          · rintro ⟨⟩
      | download => exact ⟨h.provided, h.lost⟩
  | completing trigger result =>
      obtain rfl := Option.some.inj hstep
      cases trigger with
      | check =>
          refine ⟨?_, h.lost⟩
          intro hperiod
          rcases h.provided hperiod with hpending | hlost
          · left
            apply hpending
          · right
            right
            apply hlost
      | download => exact ⟨h.provided, h.lost⟩
  | recording trigger result =>
      obtain rfl := Option.some.inj hstep
      exact ⟨h.provided, h.lost⟩
  | disarming =>
      obtain rfl := Option.some.inj hstep
      exact ⟨trivial, fun _ => hp.disarm _⟩
  | leaving =>
      obtain rfl := Option.some.inj hstep
      exact ⟨trivial, fun hlost => (close_isPending hp worker scene).trans (h.lost hlost)⟩
  | gone => cases hstep

/-- When the deadline passes, it becomes a trigger, or the tick is lost. -/
theorem Kept.expiry (hp : p.Ticks d) (u : Updater ω) (trace : Trace) (state : σ) :
  Kept d ((u.phase, .expiry) :: trace) (u.request .check) (d.pass state)
  := by
  refine ⟨?_, fun _ => hp.pass state⟩
  obtain ⟨worker, connectivity, phase⟩ := u
  have hcheck : (worker.triggers.request .check).check = true := rfl
  cases phase with
  | rearming trigger result =>
      cases trigger with
      | check => trivial
      | download => exact fun _ => Or.inr (Or.inl hcheck)
  | completing trigger result =>
      cases trigger with
      | check => exact fun _ => Or.inr rfl
      | download => exact fun _ => Or.inr (Or.inl hcheck)
  | disarming => trivial
  | leaving => trivial
  | gone => trivial
  | _ => exact fun _ => Or.inr (Or.inl hcheck)

/-- An event that takes no trigger back and leaves the timer and the loop alone keeps what is
known. -/
theorem Kept.other {event : Event} {state : σ} (h : Kept d trace u state) (hstep : event ≠ .step)
    (hexpiry : event ≠ .expiry) (hphase : next.phase = u.phase)
    (hconfig : next.worker.config = u.worker.config)
    (hcheck : u.worker.triggers.check = true → next.worker.triggers.check = true) :
  Kept d ((u.phase, event) :: trace) next state
  := by
  obtain ⟨worker, connectivity, phase⟩ := u
  obtain ⟨after, network, current⟩ := next
  obtain rfl : current = phase := hphase
  dsimp only at hconfig hcheck
  constructor
  · rw [Trace.isTickLost_other hstep hexpiry]
    have hprovided := h.provided
    have hwaiting : (worker.config.period ≠ none → d.isPending state = true
          ∨ worker.triggers.check = true ∨ trace.isTickLost = true) →
        after.config.period ≠ none → d.isPending state = true
          ∨ after.triggers.check = true ∨ trace.isTickLost = true := by
      rw [hconfig]
      intro h hperiod
      apply (h hperiod).imp_right
      apply Or.imp_left hcheck
    cases current with
    | rearming trigger result =>
        cases trigger with
        | check => trivial
        | download => apply hwaiting hprovided
    | completing trigger result =>
        cases trigger with
        | check =>
            unfold Provided
            dsimp only
            rw [hconfig]
            apply hprovided
        | download => apply hwaiting hprovided
    | disarming => trivial
    | leaving => trivial
    | gone => trivial
    | _ => apply hwaiting hprovided
  · rw [Trace.isTickLost_other hstep hexpiry]
    apply h.lost

/-- Whatever has happened, and in which order, is in keeping with what is known. -/
theorem Interleaved.kept (hp : p.Ticks d) (h : Interleaved p d trace u scene) :
  Kept d trace u scene.state
  := by
  induction h with
  | @spawn worker connectivity scene harms =>
      constructor
      · intro hperiod
        left
        apply (armTimer_pending (P := fun _ _ => True) hp worker).run scene trivial hperiod harms
      · rintro ⟨⟩
  | step _ hstep harms ih => apply ih.step hp hstep harms
  | expiry _ _ _ => apply Kept.expiry hp
  | @checkNow _ u next _ _ hcheck ih =>
      obtain rfl : u.request .check = next := by
        unfold Updater.checkNow at hcheck
        split at hcheck
        · cases hcheck
        · apply Except.ok.inj hcheck
      exact ih.other (by simp) (by simp) rfl rfl fun _ => rfl
  | network isConnected _ ih => exact ih.other (by simp) (by simp) rfl rfl id
  | shutDown _ ih => exact ih.other (by simp) (by simp) rfl rfl id

end Updater

namespace Bench.Rig

variable {α : Type}

/-- The timer of a rig holds a deadline as long as it is armed. -/
def deadline : Deadline Rig where
  isPending rig := rig.armed.isSome
  pass rig := { rig with armed := none }

theorem apart_armed :
  Apart fun rig => rig.armed.isSome
  := ⟨fun _ _ => rfl, fun _ _ => rfl⟩

theorem shows_of_leaves {isPending : Bool} {op : Op Rig α} {entry : α → Call}
    (hop : Leaves (fun rig => rig.armed.isSome) op) :
  (perform op entry).Keeps (deadline.Shows isPending)
  := by
  apply Act.Ensures.perform
  intro site _ hshows
  exact (hop site).trans hshows

/-- The timer of a rig ticks as it should. -/
theorem platform_ticks :
  platform.Ticks deadline
  where
  arm period site hok := by
    obtain ⟨after, -, hop | ⟨message, hfail⟩⟩ := failing_cases "arm" .invalidArgument
      (.onState fun rig => (.ok (), { rig with armed := some period })) site
    · rw [show platform.timer.arm period site = _ from hop]
      rfl
    · rw [show platform.timer.arm period site = _ from hfail] at hok
      cases hok
  disarm _ := rfl
  pass _ := rfl
  transport _ := Transport.Keeps.of_le fun _ _ _ hop => shows_of_leaves (.transport apart_armed hop)
  slots _ := {
    bootLabel := shows_of_leaves (.failing apart_armed _ _ (.onSlots fun _ => rfl))
    openWriter _ := shows_of_leaves (.failing apart_armed _ _ (.onSlots fun _ => rfl))
    write _ _ _ := shows_of_leaves (.failing apart_armed _ _ (.onSlots fun _ => rfl))
    finish _ _ := shows_of_leaves (.failing apart_armed _ _ (.onSlots fun _ => rfl))
    discard _ _ := shows_of_leaves fun _ => rfl
    select _ := shows_of_leaves (.failing apart_armed _ _ (.onSlots fun _ => rfl)) }
  restart _ := by
    rintro _ _ _ ⟨delay⟩
    exact shows_of_leaves fun _ => rfl
  observe _ := by
    rintro _ _ _ ⟨hobserve, config⟩
    obtain rfl := Option.some.inj hobserve
    exact shows_of_leaves fun _ => rfl

end Bench.Rig

namespace Updater

variable {p : Platform σ ω} {d : Deadline σ} {trace : Trace} {u : Updater ω} {scene : Scene σ}

theorem checkNow_eq (h : u.worker.triggers.isShutDown = false) :
  u.checkNow = .ok (u.request .check)
  := by
  rw [checkNow, h]
  rfl

/-- A worker that can make no step leaves its platform alone. -/
theorem step_none (h : (u.step p scene).1 = none) :
  (u.step p scene).2 = scene
  := by
  obtain ⟨worker, connectivity, phase⟩ := u
  cases phase with
  | waiting _ => rfl
  | admitted _ => rfl
  | settling => rfl
  | idle => rfl
  | gone => rfl
  | _ => cases h

/-- An updater goes on with as many steps of its worker as it can make. -/
theorem Interleaved.run (h : Interleaved p d trace u scene) (count : Nat)
    (harms : ∀ k ≤ count, ArmsSucceed (u.run p k scene).2.calls) :
  ∃ trace, Interleaved p d trace (u.run p count scene).1 (u.run p count scene).2
  := by
  induction count generalizing trace u scene with
  | zero => exact ⟨trace, h⟩
  | succ count ih =>
      cases hstep : (u.step p scene).1 with
      | none =>
          rw [Updater.run, Act.bind_eq (Prod.ext hstep (step_none hstep))]
          exact ⟨trace, h⟩
      | some next =>
          have hrun : ∀ k, u.run p (k + 1) scene = next.run p k (u.step p scene).2 := by
            intro k
            rw [Updater.run, Act.bind_eq (Prod.ext hstep rfl)]
          rw [hrun]
          apply ih (h.step hstep _)
          · intro k hk
            rw [← hrun]
            apply harms _ (Nat.succ_le_succ hk)
          · have hfirst := harms 1 (Nat.succ_le_succ (Nat.zero_le count))
            rw [hrun] at hfirst
            apply hfirst

end Updater

namespace Bench.Rig

/-- The sample worker in its loop, on a rig whose peer accepts no connection. -/
def started : Updater String × Scene Rig :=
  Updater.spawn platform sampleWorker ⟨true⟩ { state := sampleRig "factory" [] }

/-- The sample worker, waiting for a trigger. -/
def awaiting : Updater String × Scene Rig :=
  started.1.run platform 4 started.2

/-- The sample worker after a check, with the timer armed again and the trigger not cleared
yet. -/
def rearmed : Updater String × Scene Rig :=
  (awaiting.1.request .check).run platform 5 awaiting.2

/-- The sample worker, whose deadline has passed just then, waiting for the next trigger. -/
def lateTick : Updater String × Scene Rig :=
  (rearmed.1.request .check).run platform 2
    { rearmed.2 with state := deadline.pass rearmed.2.state }

/-- The late tick can come about. -/
theorem lateTick_interleaved :
  ∃ trace, Updater.Interleaved platform deadline trace lateTick.1 lateTick.2
  := by
  have hstarted : Updater.Interleaved platform deadline [] started.1 started.2 :=
    .spawn (by decide +kernel)
  obtain ⟨_, hawaiting⟩ : ∃ trace,
      Updater.Interleaved platform deadline trace awaiting.1 awaiting.2 :=
    hstarted.run 4 (by decide +kernel)
  have hasked := hawaiting.checkNow (Updater.checkNow_eq (by decide +kernel))
  obtain ⟨_, hrearmed⟩ : ∃ trace,
      Updater.Interleaved platform deadline trace rearmed.1 rearmed.2 :=
    hasked.run 5 (by decide +kernel)
  exact (hrearmed.expiry (by decide +kernel)).run 2 (by decide +kernel)

/-- After the late tick the worker is blocked, with neither a deadline nor a trigger. -/
theorem lateTick_blocked :
  lateTick.1.phase = .idle ∧ lateTick.1.worker.triggers.next = .blocked
    ∧ 0 < lateTick.1.worker.config.pollingInterval
    ∧ deadline.isPending lateTick.2.state = false
    ∧ lateTick.1.worker.triggers.isPending .check = false
    ∧ lateTick.1.worker.triggers.isPending .download = false
  := by
  decide +kernel

end Bench.Rig

namespace Updater

variable {p : Platform σ ω} {d : Deadline σ} {trace : Trace} {u : Updater ω} {scene : Scene σ}

/-- A blocked worker with periodic checks has a deadline exactly if the last tick was not lost:
if it did not come between the arming of the timer after a check and the clearing of the
trigger. -/
theorem Interleaved.isPending_iff (hp : p.Ticks d) (h : Interleaved p d trace u scene)
    (hidle : u.phase = .idle) (hblocked : u.worker.triggers.next = .blocked)
    (hinterval : 0 < u.worker.config.pollingInterval) :
  d.isPending scene.state = true ↔ trace.isTickLost = false
  := by
  have hkept := h.kept hp
  have hperiod : u.worker.config.period ≠ none := by
    rw [Config.period, if_neg (UInt32.pos_iff_ne_zero.mp hinterval)]
    rintro ⟨⟩
  have hcheck := Triggers.check_of_blocked hblocked
  constructor
  · intro hpending
    cases hlost : trace.isTickLost with
    | false => rfl
    | true =>
        rw [hkept.lost hlost] at hpending
        cases hpending
  · intro hlost
    have hprovided := hkept.provided
    rw [Provided, hidle] at hprovided
    rcases hprovided hperiod with h | h | h
    · apply h
    · rw [hcheck] at h
      cases h
    · rw [hlost] at h
      cases h

/-- The late tick of the sample worker is lost. -/
theorem Interleaved.isPending_iff_sample :
  ∃ trace,
    Interleaved Bench.Rig.platform Bench.Rig.deadline trace Bench.Rig.lateTick.1
      Bench.Rig.lateTick.2
    ∧ trace.isTickLost = true
  := by
  obtain ⟨trace, hlate⟩ := Bench.Rig.lateTick_interleaved
  obtain ⟨hidle, hblocked, hinterval, hpending, -⟩ := Bench.Rig.lateTick_blocked
  have hiff := Interleaved.isPending_iff Bench.Rig.platform_ticks hlate hidle hblocked hinterval
  refine ⟨trace, hlate, ?_⟩
  rw [← Bool.not_eq_false, ← hiff, hpending]
  decide

/-- A worker with periodic checks can be blocked with neither a deadline nor a trigger. -/
theorem Interleaved.tick_lost :
  ∃ trace u scene, Interleaved Bench.Rig.platform Bench.Rig.deadline trace u scene
    ∧ u.phase = .idle ∧ u.worker.triggers.next = .blocked
    ∧ 0 < u.worker.config.pollingInterval
    ∧ Bench.Rig.deadline.isPending scene.state = false
    ∧ ∀ trigger, u.worker.triggers.isPending trigger = false
  := by
  obtain ⟨trace, hlate⟩ := Bench.Rig.lateTick_interleaved
  obtain ⟨hidle, hblocked, hinterval, hpending, hcheck, hdownload⟩ := Bench.Rig.lateTick_blocked
  refine ⟨trace, _, _, hlate, hidle, hblocked, hinterval, hpending, ?_⟩
  rintro (_ | _)
  · exact hcheck
  · exact hdownload

end Updater

end FirmwareUpdate
