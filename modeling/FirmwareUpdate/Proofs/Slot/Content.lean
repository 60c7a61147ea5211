import FirmwareUpdate.Call
import FirmwareUpdate.Proofs.Slot.Ring
import FirmwareUpdate.Proofs.Throughout

/-!
# What the calls say about the slots

The record of calls tells which slot is selected for boot and what is in the slots: a slot is
empty once it has been opened, every write appends to it, and nothing is known any more of a
slot with which an operation has failed or that has been given up. As long as no slot is
changed while it is selected, what is known of a selected slot stays true until another one
is selected.
-/

namespace FirmwareUpdate

namespace Call

/-- The slot whose content a call may change. -/
def target? : Call → Option String
  | .openWriter slot _ => some slot
  | .write slot _ _ => some slot
  | .finish slot _ => some slot
  | .discard slot => some slot
  | _ => none

/-- The slot that a call names. -/
def slot? : Call → Option String
  | .select slot _ => some slot
  | call => call.target?

/-- The slot that a call has selected for boot. -/
def selection? : Call → Option String
  | .select slot (.ok ()) => some slot
  | _ => none

/-- What is known of the image in the target of a call after it, where `image` was known
before. -/
def written (image : Option Bytes) : Call → Option Bytes
  | .openWriter _ (.ok ()) => some []
  | .write _ data (.ok ()) => image.map (· ++ data)
  | .finish _ (.ok ()) => image
  | _ => none

/-- Whether a call has nothing to do with the slots. -/
def isForeign : Call → Bool
  | .bootLabel _ | .openWriter _ _ | .write _ _ _ | .finish _ _ | .discard _ | .select _ _ =>
    false
  | _ => true

theorem slot_of_target {call : Call} {slot : String} (h : call.target? = some slot) :
  call.slot? = some slot
  := by
  cases call <;> first | apply h | cases h

theorem slot_of_isForeign {call : Call} (h : call.isForeign = true) :
  call.slot? = none
  := by
  cases call <;> first | rfl | cases h

theorem target_of_isForeign {call : Call} (h : call.isForeign = true) :
  call.target? = none
  := by
  cases call <;> first | rfl | cases h

theorem selection_of_isForeign {call : Call} (h : call.isForeign = true) :
  call.selection? = none
  := by
  cases call <;> first | rfl | cases h

end Call

/-- The slot that is selected for boot after calls, where `boot` was selected before them. A
selection that fails leaves the slot that was selected. -/
def selected (boot : String) : List Call → String
  | [] => boot
  | call :: calls => call.selection?.getD (selected boot calls)

/-- What calls tell about the image in a slot. -/
def imageIn (slot : String) : List Call → Option Bytes
  | [] => none
  | call :: calls =>
    if call.target? = some slot then call.written (imageIn slot calls)
    else imageIn slot calls

/-- The calls up to the latest one that has selected a slot. -/
def sinceSelection (calls : List Call) : List Call :=
  calls.dropWhile fun call => call.selection?.isNone

/-- Whoever asked for the selected slot was told the one that is selected. -/
def Truthful (boot : String) (calls : List Call) : Prop :=
  ∀ label earlier, .bootLabel (.ok label) :: earlier <:+ calls → label = selected boot earlier

/-- No call may have changed the slot that was selected when it was made. -/
def Spared (boot : String) (calls : List Call) : Prop :=
  ∀ call earlier, call :: earlier <:+ calls →
    ∀ slot, call.target? = some slot → slot ≠ selected boot earlier

/-- Every call that names a slot has named the one that follows the slot selected when it was
made. -/
def Orderly (boot : String) (calls : List Call) : Prop :=
  ∀ call earlier, call :: earlier <:+ calls →
    ∀ slot, call.slot? = some slot → SlotRing.twoSlots.next (selected boot earlier) = .ok slot

section

variable {boot slot : String} {call : Call} {calls : List Call}

theorem selected_cons (h : call.selection? = none) :
  selected boot (call :: calls) = selected boot calls
  := by
  rw [selected, h, Option.getD_none]

theorem imageIn_cons (h : call.target? ≠ some slot) :
  imageIn slot (call :: calls) = imageIn slot calls
  := by
  rw [imageIn, if_neg h]

theorem imageIn_cons_of_isForeign (h : call.isForeign = true) :
  imageIn slot (call :: calls) = imageIn slot calls
  := by
  apply imageIn_cons
  rw [Call.target_of_isForeign h]
  rintro ⟨⟩

theorem imageIn_cons_target (h : call.target? = some slot) :
  imageIn slot (call :: calls) = call.written (imageIn slot calls)
  := by
  rw [imageIn, if_pos h]

theorem sinceSelection_cons (h : call.selection? = none) :
  sinceSelection (call :: calls) = sinceSelection calls
  := by
  apply List.dropWhile_cons_of_pos
  rw [h, Option.isNone_none]

theorem sinceSelection_selection (h : call.selection? = some slot) :
  sinceSelection (call :: calls) = call :: calls
  := by
  apply List.dropWhile_cons_of_neg
  simp [h]

theorem sinceSelection_select :
  sinceSelection (.select slot (.ok ()) :: calls) = .select slot (.ok ()) :: calls
  := sinceSelection_selection rfl

/-- The selected slot is told by the calls up to its selection. -/
theorem selected_sinceSelection (boot : String) (calls : List Call) :
  selected boot (sinceSelection calls) = selected boot calls
  := by
  induction calls with
  | nil => rfl
  | cons call calls ih =>
      cases h : call.selection? with
      | none => rw [sinceSelection_cons h, ih, selected_cons h]
      | some slot =>
          rw [sinceSelection_selection h]

theorem sinceSelection_suffix (calls : List Call) :
  sinceSelection calls <:+ calls
  := List.dropWhile_suffix _

/-- The latest selection only moves on. -/
theorem sinceSelection_mono {earlier calls : List Call} (h : earlier <:+ calls) :
  sinceSelection earlier <:+ sinceSelection calls
  := by
  induction calls with
  | nil =>
      obtain rfl := List.suffix_nil.mp h
      apply List.suffix_refl
  | cons call calls ih =>
      rcases List.suffix_cons_iff.mp h with rfl | h
      · apply List.suffix_refl
      cases hcall : call.selection? with
      | none =>
          rw [sinceSelection_cons hcall]
          apply ih h
      | some slot =>
          rw [sinceSelection_selection hcall]
          apply (sinceSelection_suffix earlier).trans
          apply h.trans (List.suffix_cons call calls)

/-- If nothing has been selected between two moments, nothing has at a moment between. -/
theorem sinceSelection_between {earlier moment calls : List Call} (hfrom : earlier <:+ moment)
    (hto : moment <:+ calls) (h : sinceSelection calls = sinceSelection earlier) :
  sinceSelection moment = sinceSelection earlier
  := by
  apply List.IsSuffix.eq_of_length_le
  · rw [← h]
    apply sinceSelection_mono hto
  · apply (sinceSelection_mono hfrom).length_le

namespace Truthful

theorem nil :
  Truthful boot []
  := by
  intro label earlier h
  cases List.suffix_nil.mp h

/-- A call keeps a record truthful if it tells no selected slot, or the right one. -/
theorem cons (h : Truthful boot calls)
    (hcall : ∀ label, call = .bootLabel (.ok label) → label = selected boot calls) :
  Truthful boot (call :: calls)
  := by
  intro label earlier hsuffix
  rcases List.suffix_cons_iff.mp hsuffix with heq | hsuffix
  · obtain ⟨rfl, rfl⟩ := List.cons.inj heq
    apply hcall label rfl
  · apply h _ _ hsuffix

theorem of_suffix {earlier : List Call} (h : Truthful boot calls) (hsuffix : earlier <:+ calls) :
  Truthful boot earlier
  := by
  intro label before hbefore
  apply h
  apply hbefore.trans hsuffix

theorem tail (h : Truthful boot (call :: calls)) :
  Truthful boot calls
  := h.of_suffix (List.suffix_cons call calls)

theorem head {label : String} (h : Truthful boot (.bootLabel (.ok label) :: calls)) :
  label = selected boot calls
  := h label calls (List.suffix_refl _)

end Truthful

namespace Spared

theorem of_suffix {earlier : List Call} (h : Spared boot calls) (hsuffix : earlier <:+ calls) :
  Spared boot earlier
  := Throughout.of_suffix h hsuffix

theorem head (h : Spared boot (call :: calls)) (hslot : call.target? = some slot) :
  slot ≠ selected boot calls
  := h call calls (List.suffix_refl _) slot hslot

end Spared

namespace Orderly

theorem nil :
  Orderly boot []
  := Throughout.nil

theorem of_suffix {earlier : List Call} (h : Orderly boot calls) (hsuffix : earlier <:+ calls) :
  Orderly boot earlier
  := Throughout.of_suffix h hsuffix

theorem cons (h : Orderly boot calls)
    (hcall : ∀ slot, call.slot? = some slot →
      SlotRing.twoSlots.next (selected boot calls) = .ok slot) :
  Orderly boot (call :: calls)
  := Throughout.cons h hcall

/-- Calls that are in order change no selected slot. -/
theorem spared (h : Orderly boot calls) :
  Spared boot calls
  := by
  intro call earlier hsuffix slot hslot
  apply SlotRing.twoSlots_next_ne
  apply h call earlier hsuffix slot (Call.slot_of_target hslot)

end Orderly

/-- What is known of the selected slot stays as it is until another slot is selected. -/
theorem imageIn_selected {earlier : List Call} (hspared : Spared boot calls)
    (hsuffix : earlier <:+ calls) (h : sinceSelection calls = sinceSelection earlier) :
  imageIn (selected boot earlier) calls = imageIn (selected boot earlier) earlier
  := by
  induction calls with
  | nil =>
      rw [List.suffix_nil.mp hsuffix]
  | cons call calls ih =>
      rcases List.suffix_cons_iff.mp hsuffix with rfl | hsuffix
      · rfl
      have hsince : sinceSelection calls = sinceSelection earlier :=
        sinceSelection_between hsuffix (List.suffix_cons call calls) h
      have hselected : selected boot calls = selected boot earlier := by
        rw [← selected_sinceSelection, hsince, selected_sinceSelection]
      rw [imageIn_cons, ih (hspared.of_suffix (List.suffix_cons call calls)) hsuffix hsince]
      intro htarget
      apply hspared.head htarget hselected.symm

end

end FirmwareUpdate
