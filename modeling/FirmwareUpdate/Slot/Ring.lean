import FirmwareUpdate.Fault

/-!
# Slot ring

A device has a factory image and at least two slots for updates. An update goes to the slot
after the one that is selected for boot, in the order of the slots and around their end; from
the factory image it goes to the first slot.
-/

namespace FirmwareUpdate

/-- The label of the factory image and the labels of the slots for updates. -/
structure SlotRing where
  factory : String
  slots : List String
  two_le : 2 ≤ slots.length
deriving DecidableEq, Repr

namespace SlotRing

/-- The ring with the given labels. -/
def ofLabels (factory : String) (slots : List String) : Except Fault SlotRing :=
  if h : 2 ≤ slots.length then .ok ⟨factory, slots, h⟩
  else .error (.invalidArgument "slot ring needs at least two OTA slots")

/-- The ring of a device with two slots. -/
def twoSlots : SlotRing :=
  ⟨"factory", ["ota_0", "ota_1"], by decide⟩

/-- The slot at a position, counted around the end. -/
def slotAt (ring : SlotRing) (i : Nat) : String :=
  ring.slots.get ⟨i % ring.slots.length, Nat.mod_lt _ (by have := ring.two_le; omega)⟩

/-- The slot that an update goes to while `current` is selected for boot. -/
def next (ring : SlotRing) (current : String) : Except Fault String :=
  if current = ring.factory then .ok (ring.slotAt 0)
  else
    match ring.slots.idxOf? current with
    | some i => .ok (ring.slotAt (i + 1))
    | none =>
      .error (.partitionNotFound s!"no update slot follows boot partition '{current}'")

end SlotRing

end FirmwareUpdate
