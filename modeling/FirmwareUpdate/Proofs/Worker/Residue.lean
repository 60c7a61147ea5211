import FirmwareUpdate.Proofs.Bench.Likeness
import FirmwareUpdate.Proofs.Worker.Boot
import FirmwareUpdate.Proofs.Worker.Leftovers
import FirmwareUpdate.Proofs.Worker.Renewal
import FirmwareUpdate.Proofs.Worker.Service

/-!
# No residue

After any run a new worker with the current configuration can be started in place of the one that
has run, and it does the same in the next cycle.
-/

namespace FirmwareUpdate

variable {σ ω : Type} {p : Platform σ ω}

namespace Worker

/-- A new worker for one in place of which it can be started. -/
theorem Renewable.renewed {worker : Worker ω} (h : worker.Renewable)
    (hprogrammer : worker.programmer = {}) :
  worker.Renewed (fresh worker.config worker.options worker.runningVersion worker.triggers)
  := by
  obtain ⟨-, hserves, ⟨-, hclosed, -⟩⟩ := h
  let session : Session :=
    { identity := worker.config.identity, timeout := worker.options.ioTimeout }
  refine ⟨{ session }, {}, ?_, hserves.identity_eq.symm, hserves.timeout_eq.symm, rfl, ?_⟩
  · unfold fresh
    rw [← hprogrammer]
  · cases hstage : worker.client.session.stage with
    | unconfigured => exact .inl rfl
    | idle pin =>
        refine .inr ⟨pin, rfl, ?_⟩
        rw [hserves.identity_eq]
        apply hserves.idle pin hstage
    | connected pin =>
        rw [Session.isConnected, hstage] at hclosed
        cases hclosed

end Worker

namespace Reached

variable {site : Site σ} {worker : Worker ω} {cycles : List Cycle} {scene : Scene σ}

/-- In place of a worker that has run, a new one can be started. -/
theorem renewable (h : Reached p site worker cycles scene) :
  worker.Renewable
  := by
  induction h with
  | start hworker => apply Worker.renewable_of_start (congrArg Prod.fst hworker)
  | request triggers _ ih => apply ih.update triggers _
  | arm _ ih => exact ih
  | cycle trigger _ ih => apply (Worker.process_renewable ih trigger).run _ trivial

/-- Between two cycles the programmer is as it was at first. -/
theorem programmer_eq (h : Reached p site worker cycles scene) :
  worker.programmer = {}
  := by
  obtain ⟨hnone, -, hring, -⟩ := h.invariant "" p.keeps_true trivial
  exact congrArg₂ Programmer.mk hring hnone

/-- A cycle does not depend on the cycles before it. However they have ended, and whatever they have
left in the buffers, in the place of their worker a new one can be started with the same
configuration, options, version and triggers, in a state of the platform that cannot be told from
the present one. The same trigger then comes to the same result and leads to the same configuration
and the same triggers, the platform is left in states that cannot be told apart, and the same calls
are made: the same bytes are sent, the timer is armed, slots are written and selected, and the
device is restarted in the same way. Only that the new worker has to configure the transport. -/
theorem process_leaves_no_residue {E : σ → σ → Prop} (hp : p.Respects E)
    (h : Reached p site worker cycles scene) {buffers : Buffers}
    (hbuffers : buffers.Fit worker.options) {other : Site σ} (hother : E scene.state other.state)
    (trigger : Trigger) :
  ∃ fresh start after after' result last last' made,
    Worker.start p worker.config worker.options worker.runningVersion worker.triggers
        { toSite := other } = (.ok fresh, start)
      ∧ worker.processIn p buffers trigger scene = ((after, result), last)
      ∧ fresh.process p trigger start = ((after', result), last')
      ∧ after'.config = after.config ∧ after'.triggers = after.triggers
      ∧ E last.state last'.state
      ∧ effective last.calls = made ++ effective scene.calls ∧ effective last'.calls = made
  := by
  obtain ⟨start, hstart⟩ : ∃ start : Scene σ, start = { other with
    notes := Session.startNote worker.config.identity :: other.notes, calls := [] } := ⟨_, rfl⟩
  have hagree := (Worker.process_renewed hp (h.renewable.renewed h.programmer_eq) trigger).run
    scene start (.refl (by rwa [hstart]))
  obtain ⟨⟨⟨after, result⟩, last⟩, hprocess⟩ : ∃ r, worker.process p trigger scene = r := ⟨_, rfl⟩
  obtain ⟨⟨⟨after', result'⟩, last'⟩, hprocess'⟩ : ∃ r,
    (Worker.fresh worker.config worker.options worker.runningVersion worker.triggers).process p
      trigger start = r := ⟨_, rfl⟩
  rw [hprocess, hprocess'] at hagree
  obtain ⟨⟨client, status, hsame⟩, hstate, made, hmade, hmade'⟩ := hagree
  obtain ⟨rfl, rfl⟩ := Prod.mk.inj hsame
  refine ⟨_, start, after, _, result', last, last', made, ?_, ?_, hprocess', rfl, rfl, hstate,
    hmade, ?_⟩
  · rw [h.renewable.startable.start_eq, hstart]
  · rw [Worker.processIn_eq hbuffers, hprocess]
  · rw [hmade', hstart]
    apply List.append_nil

/-- A second download installs its image as it would be installed by a new worker, although the
first one has filled the buffer. -/
theorem process_leaves_no_residue_sample :
  ∃ (worker after fresh after' : Worker String) (first second : Installation)
      (before between made : List Call) (scene start last last' : Scene Bench.Rig),
    Reached Bench.Rig.platform
        { state := Bench.Rig.sampleRig "factory" [Bench.okResponse [65], Bench.okResponse [65]] }
        worker [⟨.installed first, before, between⟩] scene
      ∧ worker.processIn Bench.Rig.platform
          ⟨{ capacity := 512 }, { capacity := 4096, front := Bench.okResponse [65] }⟩
          .download scene
        = ((after, .installed second), last)
      ∧ Worker.start Bench.Rig.platform worker.config worker.options worker.runningVersion
          worker.triggers { toSite := scene.toSite } = (.ok fresh, start)
      ∧ fresh.process Bench.Rig.platform .download start = ((after', .installed second), last')
      ∧ Bench.Rig.Likened last.state last'.state
      ∧ effective last.calls = made ++ effective scene.calls ∧ effective last'.calls = made
  := by
  have hfirst : SlotRing.twoSlots.next "factory" = .ok "ota_0" := rfl
  have hsecond : SlotRing.twoSlots.next "ota_0" = .ok "ota_1" := rfl
  obtain ⟨start, hstart, hgoing⟩ :=
    Bench.Rig.sample_reached "factory" [Bench.okResponse [65], Bench.okResponse [65]]
  obtain ⟨worker, scene, hreached, hpoised, hoptions, hgoing⟩ :=
    Bench.Rig.reached_downloaded Bench.Rig.lasting_noRestart hstart hgoing hfirst (by decide)
      Bench.Rig.sample_poised Bench.Rig.sample_oneRead
  obtain ⟨⟨hresult, -⟩, -⟩ := (Bench.Rig.downloaded_going
    (Bench.Rig.lasting_noRestart.opened "ota_0") hsecond (by decide) hpoised
    (by rw [hoptions]; exact Bench.Rig.sample_oneRead)).run scene hgoing
  have hbuffers : Buffers.Fit
      ⟨{ capacity := 512 }, { capacity := 4096, front := Bench.okResponse [65] }⟩
      worker.options := by
    rw [hoptions]
    exact ⟨rfl, rfl⟩
  obtain ⟨fresh, renewed, after, after', result, last, last', made, hfresh, hprocess, hprocess',
    -, -, hlike, hmade, hmade'⟩ :=
    process_leaves_no_residue Bench.Rig.platform_respects hreached hbuffers
      (show Bench.Rig.Likened scene.state scene.toSite.state from
        Bench.Rig.likened_refl hgoing.1.disturbances_eq) .download
  obtain rfl : result = .installed ⟨"ota_1", 1, Sha256.hex [65]⟩ := by
    rw [← Worker.processIn_eq hbuffers, hprocess] at hresult
    exact hresult
  exact ⟨worker, after, fresh, after', _, _, _, _, made, scene, renewed, last, last', hreached,
    hprocess, hfresh, hprocess', hlike, hmade, hmade'⟩

end Reached

end FirmwareUpdate
