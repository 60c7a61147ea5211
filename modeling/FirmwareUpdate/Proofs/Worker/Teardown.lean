import FirmwareUpdate.Proofs.Worker.Loop

/-!
# The timer after the end of a worker

A worker that comes to its end disarms its timer, unless it never got past its first wait for the
network: a worker that is shut down by then leaves at once, and the deadline that was set when it
was started is left, unless it passes. On all other ways to its end the worker disarms the timer
last of all, so that no deadline is left whatever has happened.

The main statement is `Looped.gone_isPending_iff`.
-/

namespace FirmwareUpdate

variable {σ ω : Type}

/-- Whether a worker has not got past its first wait for the network. -/
def Phase.isAtStart : Phase → Bool
  | .starting | .waiting .startup | .admitted .startup => true
  | _ => false

/-- Whether a worker makes no cycles any more and has nothing to do with its timer. -/
def Phase.isOver : Phase → Bool
  | .leaving | .gone => true
  | _ => false

/-- A step keeps a worker at its start or lets it leave, lets it get past its start, keeps it in its
loop, lets it leave after it has disarmed its timer, or ends it. -/
theorem Phase.Leads.course {isConnected isShutDown : Bool} {source target : Phase}
    (h : Leads isConnected isShutDown source target) :
  (source.isAtStart = true ∧ (target.isAtStart = true ∨ target.isOver = true))
    ∨ (source.isAtStart = true ∧ target = .settling)
    ∨ ((source.isAtStart = false ∧ source.isOver = false)
      ∧ target.isAtStart = false ∧ target.isOver = false ∧ target ≠ .settling)
    ∨ (source = .disarming ∧ target = .leaving)
    ∨ (source = .leaving ∧ target = .gone)
  := by
  cases h with
  | see purpose _ | giveUp purpose _ _ | refuse purpose _ | grant purpose _ =>
      cases purpose <;> simp [isAtStart, isOver, Purpose.giveUp, Purpose.goOn]
  | _ => simp [isAtStart, isOver]

/-- Whether the worker has got past its first wait for the network. -/
def Chronicle.IsEntered (chronicle : Chronicle) : Prop :=
  ∃ stride ∈ chronicle.strides, stride.target = .settling

theorem Chronicle.isEntered_step {stride : Stride} {chronicle : Chronicle} :
  IsEntered (.step stride :: chronicle) ↔ stride.target = .settling ∨ chronicle.IsEntered
  := by
  have hstrides : strides (.step stride :: chronicle) = stride :: chronicle.strides := rfl
  rw [IsEntered, hstrides]
  apply List.exists_mem_cons_iff

theorem Chronicle.isEntered_other {incident : Incident} {chronicle : Chronicle}
    (h : incident.stride? = none) :
  IsEntered (incident :: chronicle) ↔ chronicle.IsEntered
  := by
  unfold IsEntered strides
  rw [List.filterMap_cons_none h]

namespace Updater

variable {p : Platform σ ω} {d : Deadline σ} {start scene : Scene σ} {chronicle : Chronicle}
  {u next : Updater ω} {wasPending isPending : Bool}

/-- What is known of the deadline at any time. Until the worker has got past its first wait for the
network there is a deadline exactly if there was one at the start and it has not passed; after that
there is none any more once the worker has left its loop. -/
structure Deadlined (wasPending isPending : Bool) (chronicle : Chronicle) (phase : Phase) :
    Prop where
  atStart : phase.isAtStart = true → ¬ chronicle.IsEntered
  early : ¬ chronicle.IsEntered → phase.isAtStart = true ∨ phase.isOver = true
  left : ¬ chronicle.IsEntered →
    (isPending = true ↔ wasPending = true ∧ .expiry ∉ chronicle)
  atEnd : chronicle.IsEntered → phase.isOver = true → isPending = false

/-- A step that neither arms nor disarms the timer leaves it alone. -/
theorem step_isPending (hp : p.Ticks d)
    (hrearm : ∀ trigger result, u.phase ≠ .rearming trigger result)
    (hdisarm : u.phase ≠ .disarming) (scene : Scene σ) :
  d.isPending (u.step p scene).2.state = d.isPending scene.state
  := by
  obtain ⟨worker, connectivity, phase⟩ := u
  cases phase with
  | acting trigger => exact act_isPending hp worker trigger scene
  | rearming trigger result => exact absurd rfl (hrearm trigger result)
  | disarming => exact absurd rfl hdisarm
  | leaving => exact close_isPending hp worker scene
  | _ => rfl

theorem step_disarming (hp : p.Ticks d) (hphase : u.phase = .disarming) (scene : Scene σ) :
  d.isPending (u.step p scene).2.state = false
  := by
  rw [Updater.step, hphase]
  exact hp.disarm scene.toSite

/-- A worker that has got past its start and has not left its loop has entered it. -/
theorem Deadlined.entered {phase : Phase}
    (h : Deadlined wasPending isPending chronicle phase) (hstart : phase.isAtStart = false)
    (hover : phase.isOver = false) :
  chronicle.IsEntered
  := by
  by_contra hentered
  have hearly := h.early hentered
  rw [hstart, hover] at hearly
  cases hearly <;> contradiction

theorem Deadlined.step (hp : p.Ticks d)
    (h : Deadlined wasPending (d.isPending scene.state) chronicle u.phase)
    (hstep : (u.step p scene).1 = some next) :
  Deadlined wasPending (d.isPending (u.step p scene).2.state)
    (.step (u.stride next scene (u.step p scene).2) :: chronicle) next.phase
  := by
  have hentered : Chronicle.IsEntered (.step (u.stride next scene (u.step p scene).2) :: chronicle)
      ↔ next.phase = .settling ∨ chronicle.IsEntered := Chronicle.isEntered_step
  have hexpiry : .expiry ∉ Incident.step (u.stride next scene (u.step p scene).2) :: chronicle
      ↔ .expiry ∉ chronicle := by simp
  have hsame (hphase : u.phase.isAtStart = true ∨ u.phase.isOver = true) :
      d.isPending (u.step p scene).2.state = d.isPending scene.state := by
    apply step_isPending hp
    · intro _ _ heq
      simp [heq, Phase.isAtStart, Phase.isOver] at hphase
    · intro heq
      simp [heq, Phase.isAtStart, Phase.isOver] at hphase
  obtain ⟨hsource, htarget⟩ | ⟨hsource, htarget⟩ | ⟨⟨hstart, hover⟩, hstart', hover', hnot⟩
    | ⟨hsource, htarget⟩ | ⟨hsource, htarget⟩ := (step_leads hstep).course
  -- at its start, and there still or leaving
  · have hearly := h.atStart hsource
    have hnot : next.phase ≠ .settling := by
      intro heq
      simp [heq, Phase.isAtStart, Phase.isOver] at htarget
    have hstill : ¬ Chronicle.IsEntered _ := fun he => (hentered.mp he).elim hnot hearly
    refine ⟨fun _ => hstill, fun _ => htarget, fun _ => ?_, fun he => absurd he hstill⟩
    rw [hsame (.inl hsource), hexpiry]
    apply h.left hearly
  -- past its start
  · have hnow := hentered.mpr (.inl htarget)
    rw [htarget]
    exact ⟨nofun, fun hne => absurd hnow hne, fun hne => absurd hnow hne, fun _ => nofun⟩
  -- in its loop
  · have hnow := hentered.mpr (.inr (h.entered hstart hover))
    constructor
    · rw [hstart']
      rintro ⟨⟩
    · exact fun hne => absurd hnow hne
    · exact fun hne => absurd hnow hne
    · rw [hover']
      rintro _ ⟨⟩
  -- leaving its loop, which disarms the timer
  · have hnow := hentered.mpr (.inr (h.entered (by rw [hsource]; rfl) (by rw [hsource]; rfl)))
    rw [htarget]
    exact ⟨nofun, fun hne => absurd hnow hne, fun hne => absurd hnow hne,
      fun _ _ => step_disarming hp hsource scene⟩
  -- ending
  · have hover : u.phase.isOver = true := by
      rw [hsource]
      rfl
    rw [htarget] at hentered ⊢
    rw [hsame (.inr hover)]
    have hentered := hentered.trans (or_iff_right nofun)
    refine ⟨nofun, fun _ => .inr rfl, fun hne => ?_, fun he _ => ?_⟩
    · rw [hexpiry]
      exact h.left fun he => hne (hentered.mpr he)
    · exact h.atEnd (hentered.mp he) hover

/-- What is not done by the worker leaves the phase and the deadline alone, unless the deadline
passes. -/
theorem Deadlined.other {incident : Incident} {phase : Phase}
    (h : Deadlined wasPending isPending chronicle phase) (hstride : incident.stride? = none)
    (hincident : .expiry ≠ incident) :
  Deadlined wasPending isPending (incident :: chronicle) phase
  := by
  constructor
  all_goals rw [Chronicle.isEntered_other hstride]
  · exact h.atStart
  · exact h.early
  · rw [List.mem_cons, or_iff_right hincident]
    exact h.left
  · exact h.atEnd

/-- A deadline that passes is not left. -/
theorem Deadlined.expiry {phase : Phase} (h : Deadlined wasPending isPending chronicle phase) :
  Deadlined wasPending false (.expiry :: chronicle) phase
  := by
  constructor
  all_goals rw [Chronicle.isEntered_other rfl]
  · exact h.atStart
  · exact h.early
  · simp
  · exact fun _ _ => rfl

theorem Looped.deadlined (hp : p.Ticks d) (h : Looped p d start chronicle u scene) :
  Deadlined (d.isPending start.state) (d.isPending scene.state) chronicle u.phase
  := by
  induction h with
  | start worker connectivity =>
      have hentered : ¬ Chronicle.IsEntered [] := by
        rintro ⟨_, hstride, -⟩
        cases hstride
      exact ⟨fun _ => hentered, fun _ => .inl rfl, by simp, fun he => absurd he hentered⟩
  | step _ hstep ih => exact ih.step hp hstep
  | expiry _ _ ih =>
      have hpass := ih.expiry
      rw [← hp.pass] at hpass
      exact hpass
  | request _ site _ hsame ih | network _ site _ hsame ih | shutDown site _ hsame ih =>
      dsimp only
      rw [hsame]
      exact ih.other rfl nofun

/-- A worker that was started and has come to its end leaves a deadline exactly if it had set one
when it was started, the deadline has not passed, and the worker did not get past its first wait for
the network. What a timer does with its deadline when it is dropped along with the worker is left
out. -/
theorem Looped.gone_isPending_iff (hp : p.Ticks d) {worker : Worker ω}
    {connectivity : Connectivity} {first : Scene σ}
    (h : Looped p d (spawn p worker connectivity first).2 chronicle u scene)
    (hgone : u.phase = .gone) :
  d.isPending scene.state = true ↔
    d.isPending (spawn p worker connectivity first).2.state = true
      ∧ .expiry ∉ chronicle ∧ ∀ stride ∈ chronicle.strides, stride.target ≠ .settling
  := by
  have hdeadlined := h.deadlined hp
  rw [hgone] at hdeadlined
  by_cases hentered : chronicle.IsEntered
  case pos =>
    rw [hdeadlined.atEnd hentered rfl]
    obtain ⟨stride, hstride, htarget⟩ := hentered
    constructor
    · rintro ⟨⟩
    · rintro ⟨-, -, hnot⟩
      exact absurd htarget (hnot stride hstride)
  case neg =>
    have hnot : ∀ stride ∈ chronicle.strides, stride.target ≠ .settling :=
      fun stride hstride htarget => hentered ⟨stride, hstride, htarget⟩
    rw [hdeadlined.left hentered, and_iff_left hnot]

/-- The sample worker is shut down while it waits for its next trigger, and leaves no deadline. -/
theorem Looped.gone_isPending_iff_sample :
  ∃ (chronicle : Chronicle) (u : Updater String) (scene : Scene Bench.Rig),
    Looped Bench.Rig.platform Bench.Rig.deadline Bench.Rig.started.2 chronicle u scene
      ∧ .shutDown ∈ chronicle ∧ u.phase = .gone
      ∧ Bench.Rig.deadline.isPending scene.state = false
  := by
  have hstart : Looped Bench.Rig.platform Bench.Rig.deadline Bench.Rig.started.2 []
      { worker := Bench.Rig.sampleWorker, connectivity := ⟨true⟩ } Bench.Rig.started.2 :=
    .start Bench.Rig.sampleWorker ⟨true⟩
  have hidle := (((hstart.step rfl).step rfl).step rfl).step rfl
  have hgone := (((hidle.shutDown _ rfl).step rfl).step rfl).step rfl
  refine ⟨_, _, _, hgone, by simp, rfl, ?_⟩
  apply eq_false_of_ne_true
  intro hpending
  obtain ⟨-, -, hnot⟩ :=
    (Looped.gone_isPending_iff Bench.Rig.platform_ticks hgone rfl).mp hpending
  exact hnot _ (.tail _ (.tail _ (.tail _ (.tail _ (.head _))))) rfl

/-- The sample worker is shut down before the network was ever up: it has come to its end, and the
deadline that was set when it was started is left. -/
theorem Looped.deadline_left :
  ∃ (chronicle : Chronicle) (u : Updater String) (scene : Scene Bench.Rig),
    Looped Bench.Rig.platform Bench.Rig.deadline
        (spawn Bench.Rig.platform Bench.Rig.sampleWorker ⟨false⟩
          { state := Bench.Rig.sampleRig "factory" [] }).2 chronicle u scene
      ∧ .shutDown ∈ chronicle ∧ u.phase = .gone
      ∧ Bench.Rig.deadline.isPending scene.state = true
  := by
  have hstart : Looped Bench.Rig.platform Bench.Rig.deadline _ []
      { worker := Bench.Rig.sampleWorker, connectivity := ⟨false⟩ }
      (spawn Bench.Rig.platform Bench.Rig.sampleWorker ⟨false⟩
        { state := Bench.Rig.sampleRig "factory" [] }).2 :=
    .start Bench.Rig.sampleWorker ⟨false⟩
  have hgone := (((hstart.step rfl).shutDown _ rfl).step rfl).step rfl
  exact ⟨_, _, _, hgone, by simp, rfl, by decide +kernel⟩

end Updater

end FirmwareUpdate
