import FirmwareUpdate.Proofs.Composed
import FirmwareUpdate.Proofs.Slot.Programming

/-!
# What programmers reach

A programmer reaches its platform through the operations on the slots only.
-/

namespace FirmwareUpdate

variable {σ ω : Type} {B : Basis σ} {s : Slots σ ω}

/-- The operations on slots that select none. -/
inductive Slots.Prepares (s : Slots σ ω) : Basis σ
  | bootLabel : Prepares s _ s.bootLabel .bootLabel
  | openWriter (slot : String) :
      Prepares s _ (s.openWriter slot) fun writer => .openWriter slot (Functor.discard writer)
  | write (writer : ω) (slot : String) (data : Bytes) :
      Prepares s _ (s.write writer data) (.write slot data)
  | finish (writer : ω) (slot : String) : Prepares s _ (s.finish writer) (.finish slot)
  | discard (writer : ω) (slot : String) : Prepares s _ (s.discard writer) fun _ => .discard slot

/-- The operations on slots. -/
inductive Slots.Performs (s : Slots σ ω) : Basis σ
  | prepares {α : Type} {op : Op σ α} {entry : α → Call} :
      s.Prepares α op entry → Performs s α op entry
  | select (slot : String) : Performs s _ (s.select slot) (.select slot)

theorem Slots.prepares_le (h : s.Performs ≤ B) :
  s.Prepares ≤ B
  := fun _ _ _ hop => h _ _ _ (.prepares hop)

theorem Slots.Keeps.performs_le {I : Assertion σ} (hs : s.Keeps I) :
  s.Performs ≤ I.Keepers
  := by
  rintro α op entry (hop | slot)
  · cases hop with
    | bootLabel => apply hs.bootLabel
    | openWriter slot => apply hs.openWriter
    | write writer slot data => apply hs.write
    | finish writer slot => apply hs.finish
    | discard writer slot => apply hs.discard
  · apply hs.select

namespace Programming

theorem writePage_composed (hB : s.Prepares ≤ B) (p : Programming ω) (page : Bytes) :
  (p.writePage s page).Composed B
  := by
  unfold writePage
  apply Act.Composed.bind_report
  apply Act.Composed.perform (hB _ _ _ (.write _ _ _))

theorem stage_composed (hB : s.Prepares ≤ B) (p : Programming ω) (data : Bytes) :
  (p.stage s data).Composed B
  := by
  induction p, data using stage_induction with
  | wait p data hwait =>
      rw [stage_wait hwait]
      apply Act.Composed.pure
  | fill p data hne hfull ih =>
      rw [stage_full hne hfull]
      apply (writePage_composed hB p _).bind
      intro outcome
      cases outcome with
      | error _ => apply Act.Composed.pure
      | ok _ => apply ih

theorem flush_composed (hB : s.Prepares ≤ B) (p : Programming ω) :
  (p.flush s).Composed B
  := by
  unfold flush
  split
  · apply Act.Composed.pure
  · apply (writePage_composed hB p p.page).bind
    intro outcome
    split
    · apply Act.Composed.pure
    · apply Act.Composed.pure

end Programming

namespace Programmer

theorem begin_composed (hB : s.Prepares ≤ B) (programmer : Programmer ω) :
  (programmer.begin s).Composed B
  := by
  unfold begin
  split
  · apply Act.Composed.bind_report
    apply Act.Composed.pure
  apply (Act.Composed.perform (hB _ _ _ .bootLabel)).bind
  intro label
  split
  · apply Act.Composed.pure
  split
  · apply Act.Composed.pure
  apply (Act.Composed.perform (hB _ _ _ (.openWriter _))).bind
  intro opened
  split
  · apply Act.Composed.pure
  · apply Act.Composed.bind_report
    apply Act.Composed.pure

theorem write_composed (hB : s.Prepares ≤ B) (programmer : Programmer ω) (data : Bytes) :
  (programmer.write s data).Composed B
  := by
  unfold write
  split
  · apply Act.Composed.pure
  · apply (Programming.stage_composed hB _ data).map

theorem commit_composed (hB : s.Performs ≤ B) (programmer : Programmer ω) :
  (programmer.commit s).Composed B
  := by
  unfold commit
  split
  · apply Act.Composed.pure
  apply (Programming.flush_composed (Slots.prepares_le hB) _).bind
  intro flushed
  split
  · apply Act.Composed.bind_report
    apply (Act.Composed.perform (hB _ _ _ (.prepares (.discard _ _)))).bind
    intro _
    apply Act.Composed.pure
  apply (Act.Composed.perform (hB _ _ _ (.prepares (.finish _ _)))).bind
  intro finished
  split
  · apply Act.Composed.bind_report
    apply Act.Composed.pure
  apply (Act.Composed.perform (hB _ _ _ (.select _))).bind
  intro selected
  split
  · apply Act.Composed.bind_report
    apply Act.Composed.pure
  · apply Act.Composed.bind_report
    apply Act.Composed.pure

theorem abort_composed (hB : s.Prepares ≤ B) (programmer : Programmer ω) :
  (programmer.abort s).Composed B
  := by
  unfold abort
  split
  · apply Act.Composed.pure
  · apply Act.Composed.bind_report
    apply (Act.Composed.perform (hB _ _ _ (.discard _ _))).bind
    intro _
    apply Act.Composed.pure

end Programmer

end FirmwareUpdate
