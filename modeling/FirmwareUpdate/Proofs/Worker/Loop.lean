import FirmwareUpdate.Proofs.Http.Asking
import FirmwareUpdate.Proofs.Worker.Schedule

/-!
# The loop among its surroundings

The loop of a worker makes one step after another, and between any two of them the deadline of the
timer may pass, triggers may be requested, the network may go up or down, and the worker may be shut
down. What has happened is put down in a chronicle, every step with the phases that it leads from
and to and with the flags that it has found.

A step leads from one phase to a next one as `Phase.Leads` says. So what is known of the order of
the steps is known of this relation, whatever the cycles of the worker do.
-/

namespace FirmwareUpdate

variable {σ ω : Type}

/-- Whether a call opens a connection, or tries to. -/
def Call.isDial : Call → Bool
  | .dial _ _ _ => true
  | _ => false

/-! ### Phases -/

/-- From which phase to which one a step leads that finds these flags. -/
inductive Phase.Leads (isConnected isShutDown : Bool) : Phase → Phase → Prop
  | start : Leads isConnected isShutDown .starting (.waiting .startup)
  | see (purpose : Purpose) :
      isConnected = true → Leads isConnected isShutDown (.waiting purpose) (.admitted purpose)
  | giveUp (purpose : Purpose) :
      isConnected = false → isShutDown = true →
      Leads isConnected isShutDown (.waiting purpose) purpose.giveUp
  | refuse (purpose : Purpose) :
      isShutDown = true → Leads isConnected isShutDown (.admitted purpose) purpose.giveUp
  | grant (purpose : Purpose) :
      isShutDown = false → Leads isConnected isShutDown (.admitted purpose) purpose.goOn
  | settle : Leads isConnected isShutDown .settling .idle
  | take (trigger : Trigger) :
      isShutDown = false → Leads isConnected isShutDown .idle (.waiting (.cycle trigger))
  | stop : isShutDown = true → Leads isConnected isShutDown .idle .disarming
  | act (trigger : Trigger) (result : CycleResult) :
      Leads isConnected isShutDown (.acting trigger) (.rearming trigger result)
  | rearm (trigger : Trigger) (result : CycleResult) :
      Leads isConnected isShutDown (.rearming trigger result) (.completing trigger result)
  | complete (trigger : Trigger) (result : CycleResult) :
      Leads isConnected isShutDown (.completing trigger result) (.recording trigger result)
  | record (trigger : Trigger) (result : CycleResult) :
      Leads isConnected isShutDown (.recording trigger result) .idle
  | disarm : Leads isConnected isShutDown .disarming .leaving
  | leave : Leads isConnected isShutDown .leaving .gone

/-- How many steps a worker that has been shut down can make at most. -/
def Phase.stepsLeft : Phase → Nat
  | .acting _ => 7
  | .rearming _ _ => 6
  | .completing _ _ | .starting => 5
  | .recording _ _ | .waiting _ | .settling => 4
  | .admitted _ | .idle => 3
  | .disarming => 2
  | .leaving => 1
  | .gone => 0

theorem Phase.stepsLeft_le (phase : Phase) :
  phase.stepsLeft ≤ 7
  := by
  cases phase <;> simp [stepsLeft]

/-- Whether a worker in this phase only looks at the shared flags. -/
def Phase.looks : Phase → Bool
  | .waiting _ | .admitted _ | .settling | .idle => true
  | _ => false

theorem Purpose.stepsLeft_giveUp_le (purpose : Purpose) :
  purpose.giveUp.stepsLeft ≤ 2
  := by
  cases purpose <;> simp [giveUp, Phase.stepsLeft]

/-- Every step of a worker that has been shut down brings it closer to its end. -/
theorem Phase.Leads.stepsLeft_lt {isConnected : Bool} {source target : Phase}
    (h : Leads isConnected true source target) :
  target.stepsLeft < source.stepsLeft
  := by
  cases h with
  | giveUp purpose _ _ | refuse purpose _ =>
      apply Nat.lt_of_le_of_lt purpose.stepsLeft_giveUp_le
      simp [Phase.stepsLeft]
  | grant _ h | take _ h => cases h
  | _ => simp [Phase.stepsLeft]

/-! ### Chronicles -/

/-- A step of a worker: the phases that it leads from and to, the flags that it has found, and the
calls before and after it. -/
structure Stride where
  source : Phase
  target : Phase
  isConnected : Bool
  isShutDown : Bool
  before : List Call
  after : List Call

/-- What happens to a worker in its loop: it makes a step, the deadline of its timer passes, a
trigger is requested, the network goes up or down, or it is shut down. -/
inductive Incident
  | step (stride : Stride)
  | expiry
  | request (trigger : Trigger)
  | network (isConnected : Bool)
  | shutDown

/-- What has happened, the latest first. -/
abbrev Chronicle := List Incident

/-- The step that a worker has made, if it has. -/
def Incident.stride? : Incident → Option Stride
  | .step stride => some stride
  | _ => none

/-- The steps of the worker, the latest first. -/
def Chronicle.strides (chronicle : Chronicle) : List Stride :=
  chronicle.filterMap Incident.stride?

namespace Updater

/-- The step that leads an updater from one scene to the next. -/
def stride (u next : Updater ω) (before after : Scene σ) : Stride where
  source := u.phase
  target := next.phase
  isConnected := u.connectivity.isConnected
  isShutDown := u.worker.triggers.isShutDown
  before := before.calls
  after := after.calls

/-- The updaters and the scenes that can be come to from the scene in which the loop of a worker is
started, with what has happened. Everything comes in any order. The deadline can pass whenever there
is one, and what is not done by the worker may find the platform changed, except for the
deadline. -/
inductive Looped (p : Platform σ ω) (d : Deadline σ) (start : Scene σ) :
    Chronicle → Updater ω → Scene σ → Prop
  | start (worker : Worker ω) (connectivity : Connectivity) :
      Looped p d start [] { worker, connectivity } start
  | step {chronicle : Chronicle} {u next : Updater ω} {scene : Scene σ} :
      Looped p d start chronicle u scene → (u.step p scene).1 = some next →
      Looped p d start (.step (u.stride next scene (u.step p scene).2) :: chronicle) next
        (u.step p scene).2
  | expiry {chronicle : Chronicle} {u : Updater ω} {scene : Scene σ} :
      Looped p d start chronicle u scene → d.isPending scene.state = true →
      Looped p d start (.expiry :: chronicle) (u.request .check)
        { scene with state := d.pass scene.state }
  | request {chronicle : Chronicle} {u : Updater ω} {scene : Scene σ} (trigger : Trigger)
      (site : Site σ) :
      Looped p d start chronicle u scene →
      d.isPending site.state = d.isPending scene.state →
      Looped p d start (.request trigger :: chronicle) (u.request trigger)
        { scene with toSite := site }
  | network {chronicle : Chronicle} {u : Updater ω} {scene : Scene σ} (isConnected : Bool)
      (site : Site σ) :
      Looped p d start chronicle u scene →
      d.isPending site.state = d.isPending scene.state →
      Looped p d start (.network isConnected :: chronicle) (u.setConnected isConnected)
        { scene with toSite := site }
  | shutDown {chronicle : Chronicle} {u : Updater ω} {scene : Scene σ} (site : Site σ) :
      Looped p d start chronicle u scene →
      d.isPending site.state = d.isPending scene.state →
      Looped p d start (.shutDown :: chronicle) u.shutDown { scene with toSite := site }

end Updater

/-! ### What a step does -/

/-- Nothing is taken exactly if the worker has been shut down. -/
theorem Triggers.next_eq_stopped_iff {triggers : Triggers} :
  triggers.next = .stopped ↔ triggers.isShutDown = true
  := by
  unfold next
  split
  case isTrue hshut => simp [hshut]
  case isFalse hshut =>
    rw [eq_false_of_ne_true hshut]
    split <;> simp

theorem CycleResult.isShutDown_request (result : CycleResult) (triggers : Triggers) :
  (result.request triggers).isShutDown = triggers.isShutDown
  := by
  cases result <;> rfl

/-- What a trigger asks for does not take a shutdown back. -/
theorem Worker.act_isShutDown {p : Platform σ ω} {P : Assertion σ} (worker : Worker ω)
    (trigger : Trigger) :
  Act.Ensures P (worker.act p trigger) fun r _ _ =>
    r.1.triggers.isShutDown = worker.triggers.isShutDown
  := by
  unfold act
  apply Act.Ensures.bind_report
  cases trigger with
  | check =>
      apply (check_assess worker).imp_right
      rintro _ _ _ ⟨client, ⟨fault, rfl⟩ | ⟨body, rfl⟩⟩
      · rfl
      · apply CycleResult.isShutDown_request
  | download =>
      apply (download_orders worker).imp_right
      rintro ⟨_, result⟩ _ _ ⟨⟨client, programmer, status, h⟩, -⟩
      obtain rfl := h
      rfl

namespace Updater

variable {p : Platform σ ω} {d : Deadline σ} {start scene : Scene σ} {chronicle : Chronicle}
  {u next : Updater ω}

/-- Where looking at the flags leads to. -/
theorem look_leads {phase : Phase} (hlook : u.look = some phase) :
  u.phase.Leads u.connectivity.isConnected u.worker.triggers.isShutDown phase
  := by
  obtain ⟨worker, connectivity, current⟩ := u
  cases current with
  | waiting purpose =>
      simp only [look] at hlook
      split at hlook
      case isTrue hconnected =>
        obtain rfl := Option.some.inj hlook
        apply Phase.Leads.see purpose hconnected
      case isFalse hconnected =>
        split at hlook
        case isTrue hshut =>
          obtain rfl := Option.some.inj hlook
          apply Phase.Leads.giveUp purpose (eq_false_of_ne_true hconnected) hshut
        case isFalse => cases hlook
  | admitted purpose =>
      obtain rfl := Option.some.inj hlook
      dsimp only
      split
      case isTrue hshut => apply Phase.Leads.refuse purpose hshut
      case isFalse hshut => apply Phase.Leads.grant purpose (eq_false_of_ne_true hshut)
  | settling =>
      obtain rfl := Option.some.inj hlook
      apply Phase.Leads.settle
  | idle =>
      simp only [look] at hlook
      split at hlook
      case h_1 hstopped =>
        obtain rfl := Option.some.inj hlook
        apply Phase.Leads.stop (Triggers.next_eq_stopped_iff.mp hstopped)
      case h_2 trigger htaken =>
        obtain rfl := Option.some.inj hlook
        apply Phase.Leads.take
        apply eq_false_of_ne_true
        intro hshut
        rw [Triggers.next_eq_stopped_iff.mpr hshut] at htaken
        cases htaken
      case h_3 => cases hlook
  | _ => cases hlook

theorem step_of_looks (hlooks : u.phase.looks = true) :
  u.step p scene = (u.look.map fun phase => { u with phase }, scene)
  := by
  obtain ⟨worker, connectivity, phase⟩ := u
  cases phase <;> first | rfl | cases hlooks

/-- A step that only looks at the flags changes nothing but the phase. -/
theorem step_looked (hlooks : u.phase.looks = true) (hstep : (u.step p scene).1 = some next) :
  ∃ phase, u.look = some phase ∧ next = { u with phase } ∧ (u.step p scene).2 = scene
  := by
  rw [step_of_looks hlooks] at hstep ⊢
  obtain ⟨phase, hphase, rfl⟩ := Option.map_eq_some_iff.mp hstep
  exact ⟨phase, hphase, rfl, rfl⟩

theorem step_of_gone (hphase : u.phase = .gone) :
  u.step p scene = (none, scene)
  := by
  rw [Updater.step, hphase]
  rfl

/-- Where a step leads to. -/
theorem step_leads (hstep : (u.step p scene).1 = some next) :
  u.phase.Leads u.connectivity.isConnected u.worker.triggers.isShutDown next.phase
  := by
  obtain ⟨worker, connectivity, phase⟩ := u
  cases phase with
  | waiting _ | admitted _ | settling | idle =>
      obtain ⟨target, htarget, rfl, -⟩ := step_looked rfl hstep
      apply look_leads htarget
  | gone => cases hstep
  | starting | acting _ | rearming _ _ | completing _ _ | recording _ _ | disarming | leaving =>
      obtain rfl := Option.some.inj hstep
      constructor

/-- No step takes a shutdown back. -/
theorem step_isShutDown (hstep : (u.step p scene).1 = some next) :
  next.worker.triggers.isShutDown = u.worker.triggers.isShutDown
  := by
  obtain ⟨worker, connectivity, phase⟩ := u
  cases phase with
  | waiting _ | admitted _ | settling | idle =>
      obtain ⟨_, -, rfl, -⟩ := step_looked rfl hstep
      rfl
  | acting trigger =>
      obtain rfl := Option.some.inj hstep
      exact (worker.act_isShutDown trigger (P := fun _ _ => True)).run scene trivial
  | completing trigger result =>
      obtain rfl := Option.some.inj hstep
      cases trigger <;> rfl
  | gone => cases hstep
  | starting | rearming _ _ | recording _ _ | disarming | leaving =>
      obtain rfl := Option.some.inj hstep
      rfl

/-- A worker that has been shut down can make steps until it is gone. -/
theorem exists_step (hshut : u.worker.triggers.isShutDown = true) (hphase : u.phase ≠ .gone)
    (p : Platform σ ω) (scene : Scene σ) :
  ∃ next, (u.step p scene).1 = some next
  := by
  obtain ⟨worker, connectivity, phase⟩ := u
  dsimp only at hshut
  cases phase with
  | waiting purpose =>
      rw [step_of_looks rfl]
      cases hconnected : connectivity.isConnected with
      | true => simp [look, hconnected]
      | false => simp [look, hconnected, hshut]
  | admitted _ | settling => exact ⟨_, rfl⟩
  | idle =>
      rw [step_of_looks rfl]
      simp [look, Triggers.next_eq_stopped_iff.mpr hshut]
  | gone => exact absurd rfl hphase
  | starting | acting _ | rearming _ _ | completing _ _ | recording _ _ | disarming | leaving =>
      exact ⟨_, rfl⟩

/-- Left alone, a worker that has been shut down is gone after a few steps. -/
theorem run_gone (hshut : u.worker.triggers.isShutDown = true) {count : Nat}
    (hcount : u.phase.stepsLeft ≤ count) (p : Platform σ ω) (scene : Scene σ) :
  (u.run p count scene).1.phase = .gone
  := by
  induction count generalizing u scene with
  | zero =>
      rw [run]
      cases hphase : u.phase with
      | gone => exact hphase
      | _ =>
          rw [hphase] at hcount
          cases hcount
  | succ count ih =>
      rw [run]
      by_cases hphase : u.phase = .gone
      case pos =>
        rw [Act.bind_eq (step_of_gone hphase)]
        exact hphase
      case neg =>
        obtain ⟨next, hstep⟩ := exists_step hshut hphase p scene
        rw [Act.bind_eq (Prod.ext hstep rfl)]
        have hless := step_leads hstep
        rw [hshut] at hless
        apply ih
        · rw [step_isShutDown hstep, hshut]
        · apply Nat.le_of_lt_succ (Nat.lt_of_lt_of_le hless.stepsLeft_lt hcount)

/-- An updater goes on with as many steps of its worker as it can make. -/
theorem Looped.run (h : Looped p d start chronicle u scene) (count : Nat) :
  ∃ later, Looped p d start (later ++ chronicle) (u.run p count scene).1 (u.run p count scene).2
  := by
  induction count generalizing chronicle u scene with
  | zero => exact ⟨[], h⟩
  | succ count ih =>
      rw [Updater.run]
      cases hstep : (u.step p scene).1 with
      | none =>
          rw [Act.bind_eq (Prod.ext hstep (step_none hstep))]
          exact ⟨[], h⟩
      | some next =>
          rw [Act.bind_eq (Prod.ext hstep rfl)]
          obtain ⟨later, hlater⟩ := ih (h.step hstep)
          rw [List.append_cons] at hlater
          exact ⟨_, hlater⟩

/-! ### Calls of a step -/

/-- The operations that open no connection. -/
def Undialled : Basis σ :=
  fun _ _ entry => ∀ a, (entry a).isDial = false

theorem undialled_le {base : List Call} :
  Undialled ≤ (Since base fun made => ∀ call ∈ made, call.isDial = false : Assertion σ).Keepers
  := by
  intro α op entry hentry
  apply Act.Ensures.perform
  rintro site _ ⟨made, rfl, hmade⟩
  exact ⟨entry (op site).1 :: made, rfl, List.forall_mem_cons.mpr ⟨hentry _, hmade⟩⟩

/-- Only a cycle opens connections. -/
theorem step_undialled (hphase : ∀ trigger, u.phase ≠ .acting trigger) :
  (u.step p).Composed Undialled
  := by
  have hquiet {α : Type} {op : Op σ α} {call : Call} (h : call.isDial = false) :
      Undialled α op fun _ => call := fun _ => h
  obtain ⟨worker, connectivity, phase⟩ := u
  cases phase with
  | acting trigger => exact absurd rfl (hphase trigger)
  | starting => exact .bind_reportAll (.pure _)
  | waiting _ | admitted _ | settling | idle | gone => exact .pure _
  | recording _ _ => exact .pure _
  | completing _ _ => exact .bind_reportAll (.pure _)
  | rearming trigger _ =>
      apply Act.Composed.bind
      · apply Worker.rearm_composed
        rintro _ _ _ (_ | _) <;> exact fun _ => rfl
      · exact fun _ => .pure _
  | disarming =>
      apply (Act.Composed.perform (hquiet rfl)).bind
      intro _
      exact .bind_report (.pure _)
  | leaving =>
      apply Act.Composed.bind
      · apply Act.Composed.bind (Session.disconnect_composed (hquiet rfl) _)
        intro _
        exact .perform (hquiet rfl)
      · exact fun _ => .pure _

end Updater

end FirmwareUpdate
