import FirmwareUpdate.Proofs.Bench.Download
import FirmwareUpdate.Proofs.Worker.Transfer

/-!
# The slot that is selected for boot

Over a whole run the selected slot is never changed while it is selected, another slot is
selected only by a cycle that has installed an image, and the image stays in its slot as it was
installed until the next selection. The invariant of a run is that every call so far has been
in order, and that what every cycle came to is settled.
-/

namespace FirmwareUpdate

variable {σ ω : Type} {G : Assertion σ} {p : Platform σ ω} {boot : String}
  {earlier : List Call} {installed : Bool}

/-- All operations of a platform keep what always holds. -/
theorem Platform.keeps_true (p : Platform σ ω) :
  p.Keeps fun _ _ => True
  := by
  have htrue : ∀ {α : Type} (act : Act σ α), act.Keeps fun _ _ => True :=
    fun _ => ⟨fun _ _ => trivial⟩
  constructor
  · constructor
    · constructor
      · constructor <;> intros <;> apply htrue
      · intros
        apply htrue
    all_goals intros; apply htrue
  · constructor <;> intros <;> apply htrue

namespace Worker

/-- Between two cycles nothing is being written. -/
def Idle (G : Assertion σ) (boot : String) (installed : Bool) (worker : Worker ω)
    (F : List Call → Prop) : Assertion σ :=
  fun state calls => worker.programmer.session = none ∧ worker.Fit G boot installed F state calls

/-- What a trigger asks for is settled when it has been done, and nothing is being written. -/
theorem act_sound (hp : p.Keeps G) (worker : Worker ω) (trigger : Trigger) :
  Act.Ensures (worker.Idle G boot installed (Steady boot earlier)) (worker.act p trigger)
    (fun r => r.1.Idle G boot (installed || r.2.isInstalled) (r.2.Settled boot earlier))
  := by
  apply Act.Ensures.of_fact
  intro hnone
  unfold act
  apply Act.Ensures.bind_report
  cases trigger with
  | download =>
      apply (download_sound hp worker).imp_left
      intro _ _ hscene
      obtain ⟨hinstalled, h⟩ := hscene
      use hinstalled
      apply h.imp (Programmer.Sound.of_none · hnone)
  | check =>
      apply Act.Ensures.of_fact
      intro hinstalled
      apply Act.Ensures.of_fact
      intro hring
      apply (check_keeps (hp.toKeepsAround.granted steady_slotsOnly) worker).imp_right
      rintro ⟨after, result⟩ state calls ⟨hunmoved, h⟩
      obtain ⟨hprogrammer, hstatus, hne⟩ := hunmoved
      have hresult : (installed || result.isInstalled) = installed := by
        cases result with
        | installed done => apply absurd rfl (hne done)
        | _ => apply Bool.or_false
      have hsettled : result.Settled boot earlier = Steady boot earlier := by
        cases result with
        | installed done => apply absurd rfl (hne done)
        | _ => rfl
      dsimp only at hprogrammer hstatus
      refine ⟨?_, ?_, ?_, ?_⟩
      · rw [hprogrammer, hnone]
      · rw [hstatus, hinstalled, hresult]
      · rw [hprogrammer, hring]
      · rw [hsettled]
        apply h

/-- A cycle is settled when it ends, and nothing is being written. -/
theorem process_sound (hp : p.Keeps G) (worker : Worker ω) (trigger : Trigger) :
  Act.Ensures (worker.Idle G boot installed (Steady boot earlier)) (worker.process p trigger)
    (fun r => r.1.Idle G boot (installed || r.2.isInstalled) (r.2.Settled boot earlier))
  := by
  unfold process
  apply (act_sound hp worker trigger).bind
  rintro ⟨after, result⟩
  apply Act.Ensures.of_fact
  intro hnone
  apply Act.Ensures.of_fact
  intro hinstalled
  apply Act.Ensures.of_fact
  intro hring
  apply Act.Ensures.bind (R := fun _ => Granted G boot (result.Settled boot earlier))
  · apply rearm_keeps (hp.toKeepsAround.granted result.settled_slotsOnly)
  intro _
  apply Act.Ensures.bind_reportAll
  exact .pure fun _ _ h => ⟨hnone, hinstalled, hring, h⟩

end Worker

/-- A result that is settled leaves a record in which all calls are in order and that goes on
from the earlier one. -/
theorem CycleResult.Settled.orderly {result : CycleResult} {calls : List Call}
    (h : result.Settled boot earlier calls) :
  Orderly boot calls ∧ earlier <:+ calls
  := by
  have hsteady : Steady boot earlier calls → Orderly boot calls ∧ earlier <:+ calls :=
    fun h => ⟨h.orderly, h.suffix⟩
  cases result with
  | installed done =>
      obtain ⟨horderly, ⟨middle, hmiddle, hsince⟩, -⟩ := h
      use horderly
      apply hmiddle.suffix.trans
      apply (List.suffix_cons (.select done.slot (.ok ())) middle).trans
      rw [← hsince]
      apply sinceSelection_suffix
  | _ => apply hsteady h

namespace Reached

variable {site : Site σ} {worker : Worker ω} {cycles : List Cycle} {scene : Scene σ}

/-- What holds of the record of a run and of its cycles. -/
structure History (boot : String) (cycles : List Cycle) (calls : List Call) : Prop where
  orderly : Orderly boot calls
  settled : ∀ cycle ∈ cycles,
    cycle.after <:+ calls ∧ cycle.result.Settled boot cycle.before cycle.after
  selections : ∀ call earlier slot, call :: earlier <:+ calls → call.selection? = some slot →
    ∃ cycle ∈ cycles, cycle.before <:+ earlier ∧ call :: earlier <:+ cycle.after

theorem history_slotsOnly :
  SlotsOnly (History boot cycles)
  := by
  intro call calls hforeign h
  obtain ⟨horderly, hcycles, hselections⟩ := h
  constructor
  · apply horderly.cons
    rw [Call.slot_of_isForeign hforeign]
    rintro _ ⟨⟩
  · intro cycle hcycle
    obtain ⟨hafter, hsettled⟩ := hcycles cycle hcycle
    use hafter.trans (List.suffix_cons call calls)
  · intro other earlier slot hsuffix hother
    rcases List.suffix_cons_iff.mp hsuffix with heq | hsuffix
    · obtain ⟨rfl, -⟩ := List.cons.inj heq
      rw [Call.selection_of_isForeign hforeign] at hother
      cases hother
    · apply hselections other earlier slot hsuffix hother

/-- Before the first cycle nothing has been called. -/
theorem History.nil :
  History boot [] []
  := by
  constructor
  · apply Orderly.nil
  · rintro _ ⟨⟩
  · intro call earlier slot hsuffix
    cases List.suffix_nil.mp hsuffix

/-- A cycle that is settled goes on with the record of a run. What has been selected in the
meantime was selected in it. -/
theorem History.cycle {result : CycleResult} {before after : List Call}
    (h : History boot cycles before) (hsettled : result.Settled boot before after) :
  History boot (⟨result, before, after⟩ :: cycles) after
  := by
  obtain ⟨horderly, hsuffix⟩ := hsettled.orderly
  constructor
  · apply horderly
  · intro cycle hcycle
    rcases List.mem_cons.mp hcycle with rfl | hcycle
    · use List.suffix_refl _
    · obtain ⟨hafter, hsettled⟩ := h.settled cycle hcycle
      use hafter.trans hsuffix
  · intro call earlier slot hto hcall
    rcases List.suffix_or_suffix_of_suffix hto hsuffix with hearly | hlate
    · obtain ⟨cycle, hcycle, hwithin⟩ := h.selections call earlier slot hearly hcall
      use cycle, List.mem_cons_of_mem _ hcycle
    rcases List.suffix_cons_iff.mp hlate with rfl | hlate
    · obtain ⟨cycle, hcycle, hwithin⟩ :=
        h.selections call earlier slot (List.suffix_refl _) hcall
      use cycle, List.mem_cons_of_mem _ hcycle
    · exact ⟨_, List.mem_cons_self, hlate, hto⟩

/-- The invariant of a run: between two cycles nothing is being written, the status tells
whether anything has been installed, and the record is in order. -/
theorem invariant (boot : String) (hp : p.Keeps G) (hsite : G site.state [])
    (h : Reached p site worker cycles scene) :
  worker.Idle G boot (cycles.any (·.result.isInstalled)) (History boot cycles)
    scene.state scene.calls
  := by
  induction h with
  | start hstart =>
      rename_i config options version triggers worker scene
      have hfresh : ∀ started, (Worker.start p config options version triggers
            { toSite := site }).1 = .ok started →
          started.programmer = {} ∧ started.status = {} ∧ _ :=
        (Worker.start_fresh (I := fun state calls => state = site.state ∧ calls = [])).run
          { toSite := site } ⟨rfl, rfl⟩
      rw [hstart] at hfresh
      obtain ⟨hprogrammer, hstatus, hstate, hcalls⟩ := hfresh worker rfl
      rw [hstate, hcalls]
      refine ⟨?_, ?_, ?_, hsite, ?_⟩
      · rw [hprogrammer]
      · rw [hstatus]
        rfl
      · rw [hprogrammer]
      · intro _
        apply History.nil
  | request triggers _ ih => apply ih
  | arm _ ih =>
      rename_i worker cycles scene _
      obtain ⟨hnone, hinstalled, hring, h⟩ := ih
      refine ⟨hnone, hinstalled, hring, ?_⟩
      apply (Worker.armTimer_keeps (hp.toKeepsAround.granted history_slotsOnly) worker).run scene h
  | cycle trigger _ ih =>
      rename_i worker cycles scene _
      obtain ⟨hnone, hinstalled, hring, hg, hhistory⟩ := ih
      have hstart : worker.Idle G boot (cycles.any (·.result.isInstalled))
          (Steady boot scene.calls) scene.state scene.calls :=
        ⟨hnone, hinstalled, hring, hg, fun h => .refl (hhistory h).orderly⟩
      obtain ⟨hnone, hinstalled, hring, hg, hsettled⟩ :=
        (Worker.process_sound hp worker trigger).run scene hstart
      refine ⟨hnone, ?_, hring, hg, ?_⟩
      · rw [hinstalled, List.any_cons, Bool.or_comm]
      · intro htruthful
        specialize hsettled htruthful
        specialize hhistory (htruthful.of_suffix hsettled.orderly.2)
        apply hhistory.cycle hsettled

/-- A slot is selected in a cycle only if that comes to an installation, and then it is the slot
of the installation. -/
theorem selection_of_settled {cycle : Cycle} {call : Call} {earlier : List Call} {slot : String}
    (h : cycle.result.Settled boot cycle.before cycle.after)
    (hfrom : cycle.before <:+ earlier) (hto : call :: earlier <:+ cycle.after)
    (hcall : call.selection? = some slot) :
  ∃ done, cycle.result = .installed done ∧ slot = done.slot
  := by
  obtain ⟨result, before, after⟩ := cycle
  have hnever : ∀ {calls}, Steady boot before calls → ¬ call :: earlier <:+ calls := by
    intro calls hsteady hsuffix
    have hlatest := sinceSelection_mono hsuffix
    rw [sinceSelection_selection hcall, hsteady.since_eq] at hlatest
    have hearlier := (hlatest.trans (sinceSelection_suffix before)).trans hfrom
    apply Nat.not_succ_le_self _ hearlier.length_le
  cases result with
  | installed done =>
      obtain ⟨-, ⟨middle, hmiddle, hsince⟩, -⟩ := h
      have hlatest := sinceSelection_mono hto
      rw [sinceSelection_selection hcall, hsince] at hlatest
      rcases List.suffix_cons_iff.mp hlatest with heq | hsuffix
      · obtain ⟨rfl, -⟩ := List.cons.inj heq
        use done, rfl
        apply (Option.some.inj hcall).symm
      · apply absurd hsuffix (hnever hmiddle)
  | _ => apply absurd hto (hnever h)

/-- What a cycle has installed is selected at its end, and is in its slot until another slot is
selected. -/
theorem image_installed {calls before after : List Call} {done : Installation}
    (h : Switched boot before done after) (hspared : Spared boot calls)
    (hafter : after <:+ calls) :
  selected boot after = done.slot
    ∧ ∃ image, image.length = done.size ∧ Sha256.hex image = done.digest
      ∧ ∀ moment, moment <:+ calls → sinceSelection moment = sinceSelection after →
          imageIn done.slot moment = some image
  := by
  obtain ⟨-, ⟨middle, -, hsince⟩, image, himage, hsize, hdigest⟩ := h
  have hselected : selected boot (sinceSelection after) = done.slot := by
    rw [hsince]
    rfl
  have hkept : ∀ moment, moment <:+ calls → sinceSelection moment = sinceSelection after →
      imageIn done.slot moment = imageIn done.slot (sinceSelection after) := by
    intro moment hmoment heq
    rw [← hselected]
    apply imageIn_selected (hspared.of_suffix hmoment)
    · rw [← heq]
      apply sinceSelection_suffix
    · rw [heq, hsince, sinceSelection_select]
  constructor
  · rw [← selected_sinceSelection, hselected]
  · use image, hsize, hdigest
    intro moment hmoment heq
    rw [hkept moment hmoment heq, ← hkept after hafter rfl, himage]

/-- Over every run of a worker, whatever the server does and whichever operations fail:
* a slot is never changed while it is selected;
* whenever another slot becomes the selected one, that happens in a cycle that comes to an
  installation, and it is the slot of the installation;
* from the selection on until the next one, the slot holds as many bytes as the installation
  tells, and their digest is the one that it tells;
* the status tells whether any cycle has come to an installation. -/
theorem boots_installed (h : Reached p site worker cycles scene)
    (htruthful : Truthful boot scene.calls) :
  (∀ call earlier, call :: earlier <:+ scene.calls →
      ∀ slot, call.target? = some slot → slot ≠ selected boot earlier)
    ∧ (∀ call earlier, call :: earlier <:+ scene.calls →
        selected boot (call :: earlier) ≠ selected boot earlier →
          ∃ cycle ∈ cycles, cycle.before <:+ earlier ∧ call :: earlier <:+ cycle.after
            ∧ ∃ done, cycle.result = .installed done
              ∧ selected boot (call :: earlier) = done.slot)
    ∧ (∀ cycle ∈ cycles, ∀ done, cycle.result = .installed done →
        selected boot cycle.after = done.slot
          ∧ ∃ image, image.length = done.size ∧ Sha256.hex image = done.digest
            ∧ ∀ moment, moment <:+ scene.calls →
                sinceSelection moment = sinceSelection cycle.after →
                imageIn done.slot moment = some image)
    ∧ (worker.status.installed = true
        ↔ ∃ cycle ∈ cycles, ∃ done, cycle.result = .installed done)
  := by
  obtain ⟨-, hinstalled, -, -, hhistory⟩ := h.invariant boot p.keeps_true trivial
  obtain ⟨horderly, hcycles, hselections⟩ := hhistory htruthful
  refine ⟨horderly.spared, ?_, ?_, ?_⟩
  · intro call earlier hsuffix hne
    cases hcall : call.selection? with
    | none => apply absurd (selected_cons hcall) hne
    | some slot =>
        obtain ⟨cycle, hcycle, hfrom, hto⟩ := hselections call earlier slot hsuffix hcall
        use cycle, hcycle, hfrom, hto
        rw [selected, hcall, Option.getD_some]
        apply selection_of_settled (hcycles cycle hcycle).2 hfrom hto hcall
  · intro cycle hcycle done hdone
    obtain ⟨hafter, hsettled⟩ := hcycles cycle hcycle
    rw [hdone] at hsettled
    apply image_installed hsettled horderly.spared hafter
  · rw [hinstalled, List.any_eq_true]
    constructor
    · rintro ⟨⟨result, before, after⟩, hcycle, hresult⟩
      cases result with
      | installed done => exact ⟨_, hcycle, done, rfl⟩
      | _ => cases hresult
    · rintro ⟨cycle, hcycle, done, hdone⟩
      use cycle, hcycle
      rw [hdone]
      rfl

/-- A run on a rig is told the truth. -/
theorem rig_truthful {site : Site Bench.Rig} {worker : Worker String} {scene : Scene Bench.Rig}
    (h : Reached Bench.Rig.platform site worker cycles scene) :
  Truthful site.state.slots.boot scene.calls
  := by
  obtain ⟨-, -, -, ⟨-, htruthful⟩, -⟩ :=
    h.invariant site.state.slots.boot Bench.Rig.platform_told ⟨rfl, Truthful.nil⟩
  apply htruthful

/-- A worker on a device that runs its factory image installs an image of one byte, and then the
slot that is selected holds that byte. -/
theorem boots_installed_sample :
  ∃ (worker : Worker String) (cycles : List Cycle) (scene : Scene Bench.Rig),
    Reached Bench.Rig.platform
        { state := Bench.Rig.sampleRig "factory" [Bench.okResponse [65]] } worker cycles scene
      ∧ Truthful "factory" scene.calls
      ∧ worker.status.installed = true
      ∧ ∃ cycle ∈ cycles, cycle.result = .installed ⟨"ota_0", 1, Sha256.hex [65]⟩
        ∧ selected "factory" cycle.after = "ota_0"
        ∧ ∃ image, image.length = 1 ∧ imageIn "ota_0" scene.calls = some image
  := by
  obtain ⟨start, hstart, hgoing⟩ := Bench.Rig.sample_reached "factory" [Bench.okResponse [65]]
  have hnext : SlotRing.twoSlots.next "factory" = .ok "ota_0" := rfl
  obtain ⟨worker, scene, hreached, -⟩ := Bench.Rig.reached_downloaded
    Bench.Rig.lasting_noRestart hstart hgoing hnext (by decide) Bench.Rig.sample_poised
    Bench.Rig.sample_oneRead
  have htruthful : Truthful "factory" scene.calls := hreached.rig_truthful
  obtain ⟨-, -, himages, hstatus⟩ := boots_installed hreached htruthful
  obtain ⟨hselected, image, hsize, -, himage⟩ :=
    himages _ (List.mem_singleton_self _) _ rfl
  refine ⟨worker, _, scene, hreached, htruthful, ?_, _, List.mem_singleton_self _, rfl, hselected,
    image, hsize, ?_⟩
  · apply hstatus.mpr
    exact ⟨_, List.mem_singleton_self _, _, rfl⟩
  · apply himage _ (List.suffix_refl _) rfl

end Reached

end FirmwareUpdate
