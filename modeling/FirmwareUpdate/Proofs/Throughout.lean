import Mathlib.Data.List.Basic

/-!
# What holds throughout a record

A record has its latest entry first. What holds throughout it is said of every entry together with
those that were made before it; an entry that is added has to be looked at alone.
-/

namespace FirmwareUpdate

variable {α : Type}

/-- Every entry of a record is as `P` says, with the entries that were made before it. -/
def Throughout (P : α → List α → Prop) (record : List α) : Prop :=
  ∀ entry earlier, entry :: earlier <:+ record → P entry earlier

namespace Throughout

variable {P Q : α → List α → Prop} {entry : α} {record : List α}

theorem nil :
  Throughout P []
  := fun _ _ hsuffix => absurd (List.suffix_nil.mp hsuffix) nofun

theorem cons (h : Throughout P record) (hentry : P entry record) :
  Throughout P (entry :: record)
  := by
  intro _ _ hsuffix
  obtain heq | hsuffix := List.suffix_cons_iff.mp hsuffix
  · obtain ⟨rfl, rfl⟩ := List.cons.inj heq
    exact hentry
  · apply h _ _ hsuffix

/-- What holds throughout a record has held by any time before. -/
theorem of_suffix {earlier : List α} (h : Throughout P record) (hsuffix : earlier <:+ record) :
  Throughout P earlier
  := fun _ _ hbefore => h _ _ (hbefore.trans hsuffix)

theorem imp (h : Throughout P record) (hP : ∀ entry earlier, P entry earlier → Q entry earlier) :
  Throughout Q record
  := fun entry earlier hsuffix => hP entry earlier (h entry earlier hsuffix)

end Throughout

end FirmwareUpdate
