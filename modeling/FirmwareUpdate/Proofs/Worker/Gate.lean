import FirmwareUpdate.Proofs.Throughout
import FirmwareUpdate.Proofs.Worker.Loop
import FirmwareUpdate.Proofs.Worker.Order

/-!
# The gate before a cycle

A worker that has taken a trigger waits until it sees the network up, and then looks for a shutdown;
only if there has been none it starts the cycle. Since every cycle goes through this gate, no
connection is opened before the network was seen up. A shutdown that comes right after the worker
has looked for it does not keep it from this one cycle; there is no other one, and the worker comes
to its end, whatever is still pending.

The main statement is `Looped.gated`.
-/

namespace FirmwareUpdate

variable {σ ω : Type}

namespace Stride

/-- The step takes a trigger. -/
def Takes (stride : Stride) (trigger : Trigger) : Prop :=
  stride.source = .idle ∧ stride.target = .waiting (.cycle trigger)

/-- The step sees the network up, which the worker has waited for. -/
def Sees (stride : Stride) (purpose : Purpose) : Prop :=
  stride.source = .waiting purpose ∧ stride.target = .admitted purpose
    ∧ stride.isConnected = true

/-- The step finds that the worker has not been shut down, and lets it go on. -/
def Grants (stride : Stride) (purpose : Purpose) : Prop :=
  stride.source = .admitted purpose ∧ stride.target = purpose.goOn ∧ stride.isShutDown = false

/-- The step opens a connection, or tries to. -/
def Dials (stride : Stride) : Prop :=
  ∃ made, stride.after = made ++ stride.before ∧ ∃ call ∈ made, call.isDial = true

end Stride

/-- How far a worker has come on its way to the cycle of a trigger, with the steps by then, the
latest first: it has taken the trigger, then seen the network up, and then found that it has not
been shut down. -/
inductive Passed (trigger : Trigger) : Phase → List Stride → Prop
  | take {stride : Stride} (earlier : List Stride) :
      stride.Takes trigger →
      Passed trigger (.waiting (.cycle trigger)) (stride :: earlier)
  | see {stride : Stride} {earlier : List Stride} :
      stride.Sees (.cycle trigger) → Passed trigger (.waiting (.cycle trigger)) earlier →
      Passed trigger (.admitted (.cycle trigger)) (stride :: earlier)
  | grant {stride : Stride} {earlier : List Stride} :
      stride.Grants (.cycle trigger) → Passed trigger (.admitted (.cycle trigger)) earlier →
      Passed trigger (.acting trigger) (stride :: earlier)

/-- What is known of a worker that has been shut down, and of its steps since then, the latest
first. A cycle can be the first of them only, so that there is at most one. No trigger is taken.
There are seven steps at most, and the worker can go on until it is gone; left alone, it is gone
after so many steps. -/
structure Stopping (p : Platform σ ω) (steps : List Stride) (u : Updater ω) (scene : Scene σ) :
    Prop where
  cycle_first : Throughout (fun stride earlier =>
    ∀ trigger, stride.source = .acting trigger → earlier = []) steps
  takes_nothing : ∀ stride ∈ steps, ∀ trigger, ¬ stride.Takes trigger
  length_le : steps.length ≤ 7
  goes_on : u.phase ≠ .gone → ∃ next, (u.step p scene).1 = some next
  returns : (u.run p 7 scene).1.phase = .gone

/-! ### On the way to a cycle -/

namespace Passed

variable {trigger : Trigger} {phase : Phase} {steps : List Stride}

/-- A worker that is let go on has seen the network up. -/
theorem exists_sees (h : Passed trigger (.acting trigger) steps) :
  ∃ stride ∈ steps, stride.Sees (.cycle trigger)
  := by
  cases h with
  | grant _ h =>
      cases h with
      | see hsees _ => exact ⟨_, List.mem_cons_of_mem _ List.mem_cons_self, hsees⟩

/-- A step leads a worker on through the gate. -/
theorem step (stride : Stride)
    (hleads : stride.source.Leads stride.isConnected stride.isShutDown stride.target)
    (h : ∀ trigger, stride.source.taken? = some trigger → Passed trigger stride.source steps) :
  ∀ trigger, stride.target.taken? = some trigger → Passed trigger stride.target (stride :: steps)
  := by
  obtain ⟨source, target, isConnected, isShutDown, before, after⟩ := stride
  dsimp only at hleads h ⊢
  cases hleads with
  | see purpose hconnected =>
      cases purpose with
      | startup => rintro _ ⟨⟩
      | cycle trigger =>
          rintro _ ⟨rfl⟩
          exact .see ⟨rfl, rfl, hconnected⟩ (h trigger rfl)
  | grant purpose hshut =>
      cases purpose with
      | startup => rintro _ ⟨⟩
      | cycle trigger =>
          rintro _ ⟨rfl⟩
          exact .grant ⟨rfl, rfl, hshut⟩ (h trigger rfl)
  | take trigger _ =>
      rintro _ ⟨rfl⟩
      exact .take steps ⟨rfl, rfl⟩
  | giveUp purpose _ _ | refuse purpose _ => cases purpose <;> rintro _ ⟨⟩
  | _ => rintro _ ⟨⟩

end Passed

namespace Updater

variable {p : Platform σ ω} {d : Deadline σ} {start scene : Scene σ} {chronicle : Chronicle}
  {u next : Updater ω}

/-- Only the step of a cycle opens a connection. -/
theorem stride_dials (hdials : (u.stride next scene (u.step p scene).2).Dials) :
  ∃ trigger, u.phase = .acting trigger
  := by
  by_contra hphase
  obtain ⟨made, hmade, call, hcall, hdial⟩ := hdials
  obtain ⟨made', hmade', hquiet⟩ :=
    ((step_undialled fun trigger heq => hphase ⟨trigger, heq⟩).keeps undialled_le).run scene
      ⟨[], rfl, by simp⟩
  have heq : made = made' := by
    apply List.append_cancel_right (hmade.symm.trans hmade')
  rw [heq] at hcall
  rw [hquiet call hcall] at hdial
  cases hdial

/-- What is known of the gate at any time. -/
structure Gated (steps : List Stride) (phase : Phase) : Prop where
  passed : ∀ trigger, phase.taken? = some trigger → Passed trigger phase steps
  cycles : Throughout (fun stride earlier =>
    ∀ trigger, stride.source = .acting trigger → Passed trigger (.acting trigger) earlier) steps
  dials : ∀ stride ∈ steps, stride.Dials → ∃ trigger, stride.source = .acting trigger

theorem Gated.step {steps : List Stride} (h : Gated steps u.phase)
    (hstep : (u.step p scene).1 = some next) :
  Gated (u.stride next scene (u.step p scene).2 :: steps) next.phase
  := by
  constructor
  · exact Passed.step (u.stride next scene (u.step p scene).2) (step_leads hstep) h.passed
  · apply h.cycles.cons
    intro trigger hacting
    have hphase : u.phase = .acting trigger := hacting
    have hpassed := h.passed trigger
    rw [hphase] at hpassed
    exact hpassed rfl
  · rw [List.forall_mem_cons]
    exact ⟨stride_dials, h.dials⟩

theorem Looped.gate (h : Looped p d start chronicle u scene) :
  Gated chronicle.strides u.phase
  := by
  induction h with
  | start worker connectivity =>
      exact ⟨nofun, .nil, List.forall_mem_nil _⟩
  | step _ hstep ih => exact ih.step hstep
  | expiry _ _ ih | request _ _ _ _ ih | network _ _ _ _ ih | shutDown _ _ _ ih => exact ih

/-! ### After a shutdown -/

/-- What is known of a worker that has been shut down, at any time since then. -/
structure Halting (steps : List Stride) (u : Updater ω) : Prop where
  isShutDown : u.worker.triggers.isShutDown = true
  length_le : steps.length + u.phase.stepsLeft ≤ 7
  before_le : Throughout (fun stride earlier =>
    earlier.length + stride.source.stepsLeft ≤ 7) steps
  takes_nothing : ∀ stride ∈ steps, ∀ trigger, ¬ stride.Takes trigger

theorem Halting.step {steps : List Stride} (h : Halting steps u)
    (hstep : (u.step p scene).1 = some next) :
  Halting (u.stride next scene (u.step p scene).2 :: steps) next
  := by
  have hleads := step_leads hstep
  rw [h.isShutDown] at hleads
  have hless := hleads.stepsLeft_lt
  have hlength := h.length_le
  constructor
  · rw [step_isShutDown hstep, h.isShutDown]
  · rw [List.length_cons]
    omega
  · exact h.before_le.cons hlength
  · rw [List.forall_mem_cons]
    refine ⟨?_, h.takes_nothing⟩
    rintro trigger ⟨hsource, htarget⟩
    have hsource : u.phase = .idle := hsource
    have htarget : next.phase = .waiting (.cycle trigger) := htarget
    rw [hsource, htarget] at hleads
    cases hleads with
    | take _ hshut => cases hshut

theorem Halting.stopping {steps : List Stride} (h : Halting steps u) (p : Platform σ ω)
    (scene : Scene σ) :
  Stopping p steps u scene
  where
  cycle_first := by
    refine h.before_le.imp fun stride earlier hbefore trigger hacting => ?_
    -- from a cycle all seven steps are left, so that none has come before it
    rw [hacting] at hbefore
    apply List.eq_nil_of_length_eq_zero
    apply Nat.eq_zero_of_le_zero
    apply Nat.le_of_add_le_add_right hbefore
  takes_nothing := h.takes_nothing
  length_le := Nat.le_trans (Nat.le_add_right _ _) h.length_le
  goes_on hphase := exists_step h.isShutDown hphase p scene
  returns := run_gone h.isShutDown u.phase.stepsLeft_le p scene

/-- A worker that has just been shut down. -/
theorem Halting.begin (hshut : u.worker.triggers.isShutDown = true) :
  Halting [] u
  where
  isShutDown := hshut
  length_le := by
    rw [List.length_nil, Nat.zero_add]
    apply Phase.stepsLeft_le
  before_le := .nil
  takes_nothing := by simp

/-- What is known at any time, since each time that the worker was shut down. -/
def Halts (chronicle : Chronicle) (u : Updater ω) : Prop :=
  ∀ (later earlier : Chronicle), chronicle = later ++ .shutDown :: earlier →
    Halting later.strides u

theorem Halts.step (h : Halts chronicle u) (hstep : (u.step p scene).1 = some next) :
  Halts (.step (u.stride next scene (u.step p scene).2) :: chronicle) next
  := by
  intro later earlier hshut
  cases later with
  | nil => cases hshut
  | cons _ later =>
      obtain ⟨rfl, rfl⟩ := List.cons.inj hshut
      exact (h later earlier rfl).step hstep

/-- What is not done by the worker leaves its phase alone and does not take a shutdown back. -/
theorem Halts.other {incident : Incident} (h : Halts chronicle u)
    (hstride : incident.stride? = none) (hphase : next.phase = u.phase)
    (hflag : u.worker.triggers.isShutDown = true → next.worker.triggers.isShutDown = true)
    (hshutDown : incident = .shutDown → next.worker.triggers.isShutDown = true) :
  Halts (incident :: chronicle) next
  := by
  intro later earlier hshut
  cases later with
  | nil =>
      obtain ⟨heq, -⟩ := List.cons.inj hshut
      apply Halting.begin (hshutDown heq)
  | cons _ later =>
      obtain ⟨rfl, rfl⟩ := List.cons.inj hshut
      have hhalting := h later earlier rfl
      have hstrides : Chronicle.strides (incident :: later) = Chronicle.strides later :=
        List.filterMap_cons_none hstride
      rw [hstrides]
      refine ⟨hflag hhalting.isShutDown, ?_, hhalting.before_le, hhalting.takes_nothing⟩
      rw [hphase]
      exact hhalting.length_le

theorem Looped.halts (h : Looped p d start chronicle u scene) :
  Halts chronicle u
  := by
  induction h with
  | start worker connectivity =>
      intro later earlier hshut
      cases later <;> cases hshut
  | step _ hstep ih => exact ih.step hstep
  | expiry _ _ ih => exact ih.other rfl rfl id nofun
  | request trigger _ _ _ ih =>
      exact ih.other rfl rfl (fun hshut => by cases trigger <;> exact hshut) nofun
  | network _ _ _ _ ih => exact ih.other rfl rfl id nofun
  | shutDown _ _ _ ih => exact ih.other rfl rfl (fun _ => rfl) (fun _ => rfl)

/-- Cycles are made only by workers that were let through the gate. A connection is opened only
after the network was seen up. A cycle is started only after its trigger was taken, then the network
was seen up, and then it was found that the worker has not been shut down. After a shutdown there is
at most one cycle, no trigger is taken, and the worker comes to its end. -/
theorem Looped.gated (h : Looped p d start chronicle u scene) :
  Throughout (fun stride earlier =>
      stride.Dials → ∃ seen ∈ earlier, ∃ purpose, seen.Sees purpose) chronicle.strides
    ∧ Throughout (fun stride earlier =>
      ∀ trigger, stride.source = .acting trigger → Passed trigger (.acting trigger) earlier)
      chronicle.strides
    ∧ ∀ (later earlier : Chronicle), chronicle = later ++ .shutDown :: earlier →
      Stopping p later.strides u scene
  := by
  refine ⟨?_, h.gate.cycles, ?_⟩
  · intro stride earlier hsuffix hdials
    obtain ⟨trigger, hacting⟩ := h.gate.dials stride (hsuffix.mem List.mem_cons_self) hdials
    obtain ⟨seen, hseen, hsees⟩ :=
      (h.gate.cycles stride earlier hsuffix trigger hacting).exists_sees
    exact ⟨seen, hseen, _, hsees⟩
  · intro later earlier hshut
    apply (h.halts later earlier hshut).stopping

end Updater

namespace Bench.Rig

open Updater

/-- The sample worker at the start of a check, on a rig whose peer accepts no connection. -/
def granted : Updater String × Scene Rig :=
  (⟨askedWorker, ⟨true⟩, .acting .check⟩,
    { state := sampleRig "factory" [],
      notes := [startNote { worker := sampleWorker, connectivity := ⟨true⟩ }] })

theorem granted_looped :
  ∃ chronicle, Looped platform deadline { state := sampleRig "factory" [] } chronicle granted.1
    granted.2
  := by
  have hstart : Looped platform deadline { state := sampleRig "factory" [] } []
      { worker := sampleWorker, connectivity := ⟨true⟩ } { state := sampleRig "factory" [] } :=
    .start sampleWorker ⟨true⟩
  have hidle := (((hstart.step rfl).step rfl).step rfl).step rfl
  have hasked := hidle.request .check _ rfl
  exact ⟨_, ((hasked.step rfl).step rfl).step rfl⟩

/-- The step in which the worker checks, though it has been shut down just before. -/
def lateCheck : Stride :=
  granted.1.shutDown.stride
    { granted.1.shutDown with
      worker := (granted.1.shutDown.worker.act platform .check granted.2).1.1
      phase := .rearming .check (granted.1.shutDown.worker.act platform .check granted.2).1.2 }
    granted.2 (granted.1.shutDown.step platform granted.2).2

theorem lateCheck_dials :
  lateCheck.Dials
  := by
  refine ⟨lateCheck.after, (List.append_nil _).symm, ?_⟩
  decide +kernel

end Bench.Rig

namespace Updater

/-- The sample worker is shut down when it has just been let go on: it makes the check, for which it
had seen the network up, and then it comes to its end. -/
theorem Looped.gated_sample :
  ∃ (before later : Chronicle) (u : Updater String) (scene : Scene Bench.Rig),
    Looped Bench.Rig.platform Bench.Rig.deadline { state := Bench.Rig.sampleRig "factory" [] }
        (later ++ .step Bench.Rig.lateCheck :: .shutDown :: before) u scene
      ∧ Bench.Rig.lateCheck.Dials ∧ Passed .check (.acting .check) (Chronicle.strides before)
      ∧ u.phase = .gone
  := by
  obtain ⟨before, hgranted⟩ := Bench.Rig.granted_looped
  have hlate := (hgranted.shutDown _ rfl).step rfl
  obtain ⟨-, hpassed, hstopping⟩ := Looped.gated hlate
  obtain ⟨later, hgone⟩ := hlate.run 7
  refine ⟨before, later, _, _, hgone, Bench.Rig.lateCheck_dials, ?_, ?_⟩
  · exact hpassed Bench.Rig.lateCheck _ List.suffix_rfl .check rfl
  · exact (hstopping [_] before rfl).returns

end Updater

end FirmwareUpdate
