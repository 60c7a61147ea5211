import FirmwareUpdate.Proofs.Worker.Boot
import Mathlib.Algebra.Group.Nat.Even

/-!
# The slot that the device runs from

A device keeps running from the slot that was selected when it started, while every
installation selects another one. Updates go to the slot after the selected one, so with two
slots they come back to the running one in turn, unless the device is restarted in between.
-/

namespace FirmwareUpdate

variable {boot slot : String} {call : Call} {calls : List Call}

/-- How many times another slot has been selected. -/
def switches (calls : List Call) : Nat :=
  calls.countP fun call => call.selection?.isSome

theorem switches_cons (h : call.selection? = none) :
  switches (call :: calls) = switches calls
  := by
  apply List.countP_cons_of_neg
  simp [h]

theorem switches_cons_selection (h : call.selection? = some slot) :
  switches (call :: calls) = switches calls + 1
  := by
  apply List.countP_cons_of_pos
  simp [h]

theorem Call.slot_of_selection (h : call.selection? = some slot) :
  call.slot? = some slot
  := by
  cases call with
  | select label outcome =>
      cases outcome with
      | error _ => cases h
      | ok _ => apply h
  | _ => cases h

/-- The slots for updates are selected in turn: the one that was selected at first is selected
again after every second time, and in between the one after it is. -/
theorem Orderly.selected_in_turn (h : Orderly boot calls)
    (hboot : boot ≠ SlotRing.twoSlots.factory) :
  (Even (switches calls) → selected boot calls = boot)
    ∧ (¬ Even (switches calls) → SlotRing.twoSlots.next boot = .ok (selected boot calls))
  := by
  induction calls with
  | nil =>
      constructor
      · intro _
        rfl
      · intro hodd
        apply absurd _ hodd
        exists 0
  | cons call calls ih =>
      specialize ih (h.of_suffix (List.suffix_cons call calls))
      cases hcall : call.selection? with
      | none =>
          rw [switches_cons hcall, selected_cons hcall]
          apply ih
      | some slot =>
          have hnext : SlotRing.twoSlots.next (selected boot calls) = .ok slot :=
            h call calls (List.suffix_refl _) slot (Call.slot_of_selection hcall)
          rw [switches_cons_selection hcall, selected, hcall, Option.getD_some, Nat.even_add_one]
          obtain ⟨heven, hodd⟩ := ih
          constructor
          · intro hturn
            rw [SlotRing.twoSlots_next_next hboot (hodd hturn)] at hnext
            apply (Except.ok.inj hnext).symm
          · intro hturn
            rw [heven (not_not.mp hturn)] at hnext
            apply hnext

namespace Reached

variable {σ ω : Type} {p : Platform σ ω} {site : Site σ} {worker : Worker ω}
  {cycles : List Cycle} {scene : Scene σ}

/-- In a run of a worker the slot that the device runs from is never opened exactly if that is
the factory image, or nothing is opened after another slot has been selected, unless it has
been selected back. -/
theorem spares_running_iff (h : Reached p site worker cycles scene)
    (htruthful : Truthful boot scene.calls) :
  (∀ outcome earlier, ¬ .openWriter boot outcome :: earlier <:+ scene.calls)
    ↔ boot = SlotRing.twoSlots.factory
      ∨ ∀ slot outcome earlier, .openWriter slot outcome :: earlier <:+ scene.calls →
          Even (switches earlier)
  := by
  obtain ⟨-, -, -, -, hhistory⟩ := h.invariant boot p.keeps_true trivial
  have horderly : Orderly boot scene.calls := (hhistory htruthful).orderly
  have hopened : ∀ {slot outcome earlier}, .openWriter slot outcome :: earlier <:+ scene.calls →
      SlotRing.twoSlots.next (selected boot earlier) = .ok slot
        ∧ Orderly boot earlier := by
    intro slot outcome earlier hsuffix
    use horderly _ _ hsuffix slot rfl
    apply horderly.of_suffix ((List.suffix_cons _ _).trans hsuffix)
  constructor
  · intro hspared
    by_cases hboot : boot = SlotRing.twoSlots.factory
    · left
      apply hboot
    right
    intro slot outcome earlier hsuffix
    by_contra hodd
    obtain ⟨hnext, hearlier⟩ := hopened hsuffix
    have hturn := (hearlier.selected_in_turn hboot).2 hodd
    rw [SlotRing.twoSlots_next_next hboot hturn] at hnext
    obtain rfl : boot = slot := Except.ok.inj hnext
    apply hspared outcome earlier hsuffix
  · rintro hcases outcome earlier hsuffix
    obtain ⟨hnext, hearlier⟩ := hopened hsuffix
    rcases hcases with hboot | heven
    · apply SlotRing.twoSlots_next_ne_factory hnext hboot
    · have hboot : boot ≠ SlotRing.twoSlots.factory := SlotRing.twoSlots_next_ne_factory hnext
      have hturn := (hearlier.selected_in_turn hboot).1 (heven boot outcome earlier hsuffix)
      rw [hturn] at hnext
      apply SlotRing.twoSlots_next_ne hnext rfl

/-- A worker on a device that runs its factory image installs an image and does not open the
slot of the factory image. -/
theorem spares_running_iff_factory :
  ∃ (worker : Worker String) (cycles : List Cycle) (scene : Scene Bench.Rig),
    Reached Bench.Rig.platform
        { state := Bench.Rig.sampleRig "factory" [Bench.okResponse [65]] } worker cycles scene
      ∧ Truthful "factory" scene.calls
      ∧ (∃ earlier, .openWriter "ota_0" (.ok ()) :: earlier <:+ scene.calls)
      ∧ ∀ outcome earlier, ¬ .openWriter "factory" outcome :: earlier <:+ scene.calls
  := by
  obtain ⟨start, hstart, hgoing⟩ := Bench.Rig.sample_reached "factory" [Bench.okResponse [65]]
  have hnext : SlotRing.twoSlots.next "factory" = .ok "ota_0" := rfl
  obtain ⟨worker, scene, hreached, -, -, -, -, hopened⟩ := Bench.Rig.reached_downloaded
    Bench.Rig.lasting_noRestart hstart hgoing hnext (by decide) Bench.Rig.sample_poised
    Bench.Rig.sample_oneRead
  have htruthful : Truthful "factory" scene.calls := hreached.rig_truthful
  refine ⟨worker, _, scene, hreached, htruthful, hopened, ?_⟩
  apply (spares_running_iff hreached htruthful).mpr
  left
  rfl

/-- A worker on a device that runs from a slot for updates installs two images one after the
other. The device is not restarted, and the second image is written over the slot that it runs
from. -/
theorem running_opened :
  ∃ (worker : Worker String) (cycles : List Cycle) (scene : Scene Bench.Rig),
    Reached Bench.Rig.platform
        { state := Bench.Rig.sampleRig "ota_0" [Bench.okResponse [65], Bench.okResponse [65]] }
        worker cycles scene
      ∧ Truthful "ota_0" scene.calls
      ∧ (∀ delay, .restart delay ∉ scene.calls)
      ∧ ∃ earlier, .openWriter "ota_0" (.ok ()) :: earlier <:+ scene.calls
  := by
  obtain ⟨start, hstart, hgoing⟩ :=
    Bench.Rig.sample_reached "ota_0" [Bench.okResponse [65], Bench.okResponse [65]]
  have hfirst : SlotRing.twoSlots.next "ota_0" = .ok "ota_1" := rfl
  obtain ⟨between, middle, hbetween, hpoised, hoptions, hgoing⟩ := Bench.Rig.reached_downloaded
    Bench.Rig.lasting_noRestart hstart hgoing hfirst (by decide) Bench.Rig.sample_poised
    Bench.Rig.sample_oneRead
  have honeRead : Bench.Rig.OneRead between.options.firmwareBuffer (Bench.okResponse [65])
      [65] := by
    rw [hoptions]
    apply Bench.Rig.sample_oneRead
  have hsecond : SlotRing.twoSlots.next "ota_1" = .ok "ota_0" := rfl
  obtain ⟨worker, scene, hreached, -, -, -, ⟨hrestart, -⟩, hopened⟩ :=
    Bench.Rig.reached_downloaded (Bench.Rig.lasting_noRestart.opened "ota_1") hbetween hgoing
      hsecond (by decide) hpoised honeRead
  exact ⟨worker, _, scene, hreached, hreached.rig_truthful, hrestart, hopened⟩

end Reached

end FirmwareUpdate
