import FirmwareUpdate.Slot.Ring
import Mathlib.Data.List.Nodup

/-!
# Slots that follow each other

The slot that an update goes to is never the one that it starts from, if the labels of a ring
are all different.
-/

namespace FirmwareUpdate.SlotRing

theorem slotAt_of_lt {ring : SlotRing} {i : Nat} (h : i < ring.slots.length) :
  ring.slotAt i = ring.slots[i]
  := by
  simp [slotAt, Nat.mod_eq_of_lt h]

theorem slotAt_mem (ring : SlotRing) (i : Nat) :
  ring.slotAt i ∈ ring.slots
  := List.get_mem _ _

/-- Slots that all have different labels can be told apart by them. -/
theorem slotAt_inj {ring : SlotRing} (hnodup : ring.slots.Nodup) {i j : Nat} :
  ring.slotAt i = ring.slotAt j ↔ i % ring.slots.length = j % ring.slots.length
  := by
  simp [slotAt, hnodup.getElem_inj_iff]

/-- From the factory image an update goes to the first slot, and from a slot to the one after
it. -/
theorem next_cases {ring : SlotRing} {current slot : String} (h : ring.next current = .ok slot) :
  (current = ring.factory ∧ slot = ring.slotAt 0)
    ∨ ∃ i, i < ring.slots.length ∧ current = ring.slotAt i ∧ slot = ring.slotAt (i + 1)
  := by
  unfold next at h
  split at h
  case isTrue hcurrent =>
    left
    exact ⟨hcurrent, (Except.ok.inj h).symm⟩
  case isFalse =>
    right
    split at h
    case h_1 i hi =>
      obtain ⟨hlt, hget, -⟩ := List.idxOf?_eq_some_iff.mp hi
      refine ⟨i, hlt, ?_, (Except.ok.inj h).symm⟩
      rw [slotAt_of_lt hlt]
      simpa using hget.symm
    case h_2 => cases h

/-- Of at least two slots, none follows itself. -/
theorem succ_mod_ne (ring : SlotRing) {i : Nat} (h : i < ring.slots.length) :
  (i + 1) % ring.slots.length ≠ i % ring.slots.length
  := by
  have htwo := ring.two_le
  rw [Nat.mod_eq_of_lt h]
  rcases Nat.lt_or_ge (i + 1) ring.slots.length with hinner | hlast
  · rw [Nat.mod_eq_of_lt hinner]
    omega
  · have : i + 1 = ring.slots.length := by omega
    rw [this, Nat.mod_self]
    omega

/-- In a ring without repetitions an update never goes to the slot it starts from, unless the
factory image has the label of the first slot. -/
theorem next_ne {ring : SlotRing} {current slot : String} (hnodup : ring.slots.Nodup)
    (hfactory : ring.slotAt 0 ≠ ring.factory) (h : ring.next current = .ok slot) :
  slot ≠ current
  := by
  rcases next_cases h with ⟨rfl, rfl⟩ | ⟨i, hi, rfl, rfl⟩
  · exact hfactory
  · intro heq
    apply ring.succ_mod_ne hi
    exact (slotAt_inj hnodup).mp heq

/-- With two slots an update never goes to the slot it starts from. -/
theorem twoSlots_next_ne {current slot : String} (h : twoSlots.next current = .ok slot) :
  slot ≠ current
  := next_ne (by decide) (by decide) h

/-- An update goes to one of the slots. -/
theorem next_mem {ring : SlotRing} {current slot : String} (h : ring.next current = .ok slot) :
  slot ∈ ring.slots
  := by
  rcases next_cases h with ⟨-, rfl⟩ | ⟨i, -, -, rfl⟩
  · apply slotAt_mem
  · apply slotAt_mem

/-- With two slots an update never goes to the factory image. -/
theorem twoSlots_next_ne_factory {current slot : String} (h : twoSlots.next current = .ok slot) :
  slot ≠ twoSlots.factory
  := by
  rintro rfl
  apply absurd (next_mem h)
  decide

/-- Two slots follow each other in turn. -/
theorem twoSlots_next_next {current slot : String} (hcurrent : current ≠ twoSlots.factory)
    (h : twoSlots.next current = .ok slot) :
  twoSlots.next slot = .ok current
  := by
  rcases next_cases h with ⟨hfactory, -⟩ | ⟨i, hi, rfl, rfl⟩
  · apply absurd hfactory hcurrent
  · have htwo : i = 0 ∨ i = 1 := by
      change i < 2 at hi
      omega
    rcases htwo with rfl | rfl
    · rfl
    · rfl

end FirmwareUpdate.SlotRing
