import FirmwareUpdate.Proofs.Slot.Ring

/-!
# The rotation of the slots

Updates that follow each other are to go to the slots of a ring in turn. A ring rotates if no
update goes to the slot it starts from, and the updates from the factory image on visit the
slots in their order, each of them once before they come back to the first. Whether a ring does
so depends on its labels: they have to be different, and the factory image may share at most the
label of the last slot, which the first one follows anyway.
-/

namespace FirmwareUpdate.SlotRing

/-- The slot that an update goes to after `i` updates that followed each other, the first of
them from the factory image. -/
def visit (ring : SlotRing) : Nat → Except Fault String
  | 0 => ring.next ring.factory
  | i + 1 => ring.visit i >>= ring.next

/-- A ring in which no update goes to the slot it starts from, and the updates from the factory
image on go to the slots in their order, around the end, and to each of them once in a round. -/
structure Rotates (ring : SlotRing) : Prop where
  moves : ∀ current slot, ring.next current = .ok slot → slot ≠ current
  visits : ∀ i, ring.visit i = .ok (ring.slotAt i)
  once : ∀ i j, i < j → j < ring.slots.length → ring.visit i ≠ ring.visit j

/-- There is a ring for any labels that are those of at least two slots. -/
theorem ofLabels_eq_ok_iff {factory : String} {slots : List String} {ring : SlotRing} :
  ofLabels factory slots = .ok ring
    ↔ 2 ≤ slots.length ∧ ring.factory = factory ∧ ring.slots = slots
  := by
  unfold ofLabels
  constructor
  · intro h
    split at h
    case isTrue htwo =>
      obtain ⟨rfl⟩ := h
      exact ⟨htwo, rfl, rfl⟩
    case isFalse => cases h
  · rintro ⟨htwo, rfl, rfl⟩
    rw [dif_pos htwo]

section

variable {ring : SlotRing}

theorem length_pos (ring : SlotRing) : 0 < ring.slots.length := by
  have := ring.two_le
  omega

theorem next_factory (ring : SlotRing) :
  ring.next ring.factory = .ok (ring.slotAt 0)
  := if_pos rfl

/-- From a slot an update goes to the one after it, if the labels are different. -/
theorem next_slotAt (hnodup : ring.slots.Nodup) {i : Nat} (h : ring.slotAt i ≠ ring.factory) :
  ring.next (ring.slotAt i) = .ok (ring.slotAt (i + 1))
  := by
  have hindex : ring.slots.idxOf? (ring.slotAt i) = some (i % ring.slots.length) := by
    have hlt := Nat.mod_lt i ring.length_pos
    apply List.idxOf?_eq_some_iff.mpr
    refine ⟨hlt, rfl, ?_⟩
    intro j hj hsame
    have hslots : ring.slotAt j = ring.slotAt i := (slotAt_of_lt (by omega)).trans hsame
    have hindices := (slotAt_inj hnodup).mp hslots
    rw [Nat.mod_eq_of_lt (by omega)] at hindices
    omega
  unfold next
  rw [if_neg h, hindex]
  simp [slotAt]

/-- The slots but the last are those that another one comes after. -/
theorem mem_dropLast_iff {slot : String} :
  slot ∈ ring.slots.dropLast ↔ ∃ i, i + 1 < ring.slots.length ∧ ring.slotAt i = slot
  := by
  rw [List.dropLast_eq_take, List.mem_take_iff_getElem]
  constructor
  · rintro ⟨i, hi, rfl⟩
    exact ⟨i, by omega, slotAt_of_lt (by omega)⟩
  · rintro ⟨i, hi, rfl⟩
    exact ⟨i, by omega, (slotAt_of_lt (by omega)).symm⟩

/-- A slot with the label of the factory image is the last, from where the first one follows in
either case. -/
theorem slotAt_succ_of_factory (hfactory : ring.factory ∉ ring.slots.dropLast) {i : Nat}
    (h : ring.slotAt i = ring.factory) :
  ring.slotAt (i + 1) = ring.slotAt 0
  := by
  have hlt := Nat.mod_lt i ring.length_pos
  have hlast : i % ring.slots.length + 1 = ring.slots.length := by
    by_contra hne
    apply hfactory
    rw [← h, mem_dropLast_iff]
    exact ⟨i % ring.slots.length, by omega, by simp [slotAt]⟩
  have hmod : (i + 1) % ring.slots.length = 0 := by
    rw [← Nat.mod_add_mod, hlast, Nat.mod_self]
  simp [slotAt, hmod]

/-- The updates from the factory image on go through the slots in their order. -/
theorem visit_eq (hnodup : ring.slots.Nodup) (hfactory : ring.factory ∉ ring.slots.dropLast)
    (i : Nat) :
  ring.visit i = .ok (ring.slotAt i)
  := by
  induction i with
  | zero => apply next_factory
  | succ i ih =>
      rw [visit, ih]
      change ring.next (ring.slotAt i) = _
      by_cases h : ring.slotAt i = ring.factory
      · rw [h, next_factory, slotAt_succ_of_factory hfactory h]
      · apply next_slotAt hnodup h

/-- A ring rotates if its labels are different and the factory image has none of them but
perhaps the last. -/
theorem rotates_of_nodup (hnodup : ring.slots.Nodup)
    (hfactory : ring.factory ∉ ring.slots.dropLast) :
  ring.Rotates
  := by
  constructor
  case moves =>
    intro current slot
    apply next_ne hnodup
    intro hfirst
    apply hfactory
    rw [← hfirst, mem_dropLast_iff]
    exact ⟨0, ring.two_le, rfl⟩
  case visits => exact visit_eq hnodup hfactory
  case once =>
    intro i j hij hj hsame
    rw [visit_eq hnodup hfactory, visit_eq hnodup hfactory] at hsame
    have := (slotAt_inj hnodup).mp (Except.ok.inj hsame)
    rw [Nat.mod_eq_of_lt (by omega), Nat.mod_eq_of_lt hj] at this
    omega

/-- The slots of a ring that rotates have different labels. -/
theorem Rotates.nodup (h : ring.Rotates) :
  ring.slots.Nodup
  := by
  apply List.pairwise_iff_getElem.mpr
  intro i j hi hj hij hsame
  apply h.once i j hij hj
  rw [h.visits, h.visits, slotAt_of_lt hi, slotAt_of_lt hj, hsame]

/-- The factory image of a ring that rotates has the label of no slot but perhaps the last: after
any other the first slot would follow too early. -/
theorem Rotates.factory_not_mem (h : ring.Rotates) :
  ring.factory ∉ ring.slots.dropLast
  := by
  intro hmem
  obtain ⟨i, hi, hslot⟩ := mem_dropLast_iff.mp hmem
  apply h.once 0 (i + 1) (by omega) hi
  rw [visit, visit, h.visits i, ← hslot]
  rfl

end

/-- An update always goes to one of the slots. A ring rotates exactly if its slots have different
labels and the factory image has none of these but perhaps the last; other labels are accepted
as well. -/
theorem rotates_iff {factory : String} {slots : List String} {ring : SlotRing}
    (h : ofLabels factory slots = .ok ring) :
  (∀ current slot, ring.next current = .ok slot → slot ∈ slots)
    ∧ (ring.Rotates ↔ slots.Nodup ∧ factory ∉ slots.dropLast)
  := by
  obtain ⟨-, rfl, rfl⟩ := ofLabels_eq_ok_iff.mp h
  constructor
  · intro current slot
    apply next_mem
  · constructor
    · intro hrotates
      exact ⟨hrotates.nodup, hrotates.factory_not_mem⟩
    · rintro ⟨hnodup, hfactory⟩
      exact rotates_of_nodup hnodup hfactory

/-- A ring of three slots rotates. -/
theorem rotates_iff_sample :
  ∃ ring, ofLabels "factory" ["ota_0", "ota_1", "ota_2"] = .ok ring
    ∧ (∀ current slot, ring.next current = .ok slot → slot ∈ ["ota_0", "ota_1", "ota_2"])
    ∧ ring.Rotates
  := by
  have h : ofLabels "factory" ["ota_0", "ota_1", "ota_2"]
      = .ok ⟨"factory", ["ota_0", "ota_1", "ota_2"], by decide⟩ := rfl
  obtain ⟨hmem, hrotates⟩ := rotates_iff h
  exact ⟨_, h, hmem, hrotates.mpr (by decide)⟩

/-- Where two slots have one label, an update goes to the slot it starts from, and a third one
is never visited; where the factory image has the label of the first slot, an update goes to the
image that is running. -/
theorem rotation_stuck :
  (∃ ring, ofLabels "factory" ["a", "a", "b"] = .ok ring
      ∧ ring.next "a" = .ok "a" ∧ ∀ i, ring.visit i = .ok "a")
    ∧ ∃ ring, ofLabels "a" ["a", "b"] = .ok ring ∧ ring.next "a" = .ok "a"
  := by
  refine ⟨⟨⟨"factory", ["a", "a", "b"], by decide⟩, rfl, rfl, ?_⟩,
    ⟨"a", ["a", "b"], by decide⟩, rfl, rfl⟩
  intro i
  induction i with
  | zero => rfl
  | succ i ih =>
      rw [visit, ih]
      rfl

end FirmwareUpdate.SlotRing
