import FirmwareUpdate.Proofs.Ensures
import FirmwareUpdate.Proofs.Slot.Staging

/-!
# The custody of a slot

A slot that has been opened for writing is in the custody of the programmer until it is finished or
discarded, and a slot that has been finished well is selected next. The operations are made in this
order only, and with the writer that the slot was opened with. An assertion about the custody that
the single operations lead on therefore holds after everything that a programmer does.
-/

namespace FirmwareUpdate

variable {σ ω : Type}

/-- Whether a slot is in the programmer's custody: none is, one has been opened for writing, or one
has been finished well. -/
inductive Hold (ω : Type)
  | vacant
  | writing (writer : ω) (slot : String)
  | checked (slot : String)
deriving DecidableEq, Repr

/-- What is known of a custody, `I`, goes on from one operation on slots to the next. -/
structure Slots.Custody (s : Slots σ ω) (I : Hold ω → Assertion σ) : Prop where
  bootLabel : (perform s.bootLabel .bootLabel).Keeps (I .vacant)
  openWriter : ∀ slot,
    Act.Ensures (I .vacant)
      (perform (s.openWriter slot) fun writer => .openWriter slot (Functor.discard writer))
      fun opened => match opened with
        | .ok writer => I (.writing writer slot)
        | .error _ => I .vacant
  write : ∀ writer slot data,
    (perform (s.write writer data) (.write slot data)).Keeps (I (.writing writer slot))
  finish : ∀ writer slot,
    Act.Ensures (I (.writing writer slot)) (perform (s.finish writer) (.finish slot))
      fun outcome => match outcome with
        | .ok () => I (.checked slot)
        | .error _ => I .vacant
  discard : ∀ writer slot,
    Act.Ensures (I (.writing writer slot)) (perform (s.discard writer) fun _ => .discard slot)
      fun _ => I .vacant
  select : ∀ slot,
    Act.Ensures (I (.checked slot)) (perform (s.select slot) (.select slot)) fun _ => I .vacant

variable {s : Slots σ ω} {I : Hold ω → Assertion σ}

namespace Programming

/-- The custody of an image that is being written. -/
def hold (p : Programming ω) : Hold ω :=
  .writing p.writer p.slot

theorem writePage_custody (h : s.Custody I) (p : Programming ω) (page : Bytes) :
  (p.writePage s page).Keeps (I p.hold)
  := by
  unfold writePage
  apply Act.Ensures.bind_report
  apply h.write

/-- Taking in data leaves the slot in the custody that it was in. -/
theorem stage_custody (h : s.Custody I) (p : Programming ω) (data : Bytes) :
  Act.Ensures (I p.hold) (p.stage s data) fun r => I r.1.hold
  := by
  induction p, data using stage_induction with
  | wait p data hwait =>
      rw [stage_wait hwait]
      exact .pure fun _ _ hI => hI
  | fill p data hne hfull ih =>
      rw [stage_full hne hfull]
      apply Act.Ensures.bind (writePage_custody h p _)
      rintro (fault | ⟨⟩)
      · exact .pure fun _ _ hI => hI
      · apply ih

theorem flush_custody (h : s.Custody I) (p : Programming ω) :
  Act.Ensures (I p.hold) (p.flush s) fun r => I r.1.hold
  := by
  unfold flush
  split
  · exact .pure fun _ _ hI => hI
  · apply Act.Ensures.bind (writePage_custody h p p.page)
    rintro (fault | ⟨⟩)
    · exact .pure fun _ _ hI => hI
    · exact .pure fun _ _ hI => hI

end Programming

namespace Programmer

variable {programmer : Programmer ω}

/-- What a programmer has in its custody. -/
def hold (programmer : Programmer ω) : Hold ω :=
  programmer.session.elim .vacant Programming.hold

/-- What is known of a custody, together with that nothing is being written. -/
def Released (I : Hold ω → Assertion σ) (programmer : Programmer ω) : Assertion σ :=
  fun state calls => programmer.session = none ∧ I .vacant state calls

/-- Starting to write takes a slot into custody, unless it fails. -/
theorem begin_custody (h : s.Custody I) :
  Act.Ensures (I programmer.hold) (programmer.begin s) fun r => I r.1.hold
  := by
  unfold begin
  split
  case isTrue =>
    apply Act.Ensures.bind_report
    exact .pure fun _ _ hI => hI
  case isFalse hclosed =>
    have hhold : programmer.hold = .vacant := by
      rw [hold, Option.not_isSome_iff_eq_none.mp hclosed, Option.elim_none]
    rw [hhold]
    apply Act.Ensures.bind h.bootLabel
    rintro (fault | running)
    · exact .pure fun _ _ hI => by rwa [hhold]
    dsimp only
    split
    · exact .pure fun _ _ hI => by rwa [hhold]
    case h_2 slot _ =>
      apply (h.openWriter slot).bind
      rintro (fault | writer)
      · exact .pure fun _ _ hI => by rwa [hhold]
      · apply Act.Ensures.bind_report
        exact .pure fun _ _ hI => hI

theorem write_custody (h : s.Custody I) (data : Bytes) :
  Act.Ensures (I programmer.hold) (programmer.write s data) fun r => I r.1.hold
  := by
  unfold write
  split
  · exact .pure fun _ _ hI => hI
  case h_2 p hsession =>
    rw [hold, hsession]
    apply Act.Ensures.map
    exact Programming.stage_custody h p data

/-- Giving an image up releases its slot. -/
theorem abort_custody (h : s.Custody I) :
  Act.Ensures (I programmer.hold) (programmer.abort s) fun r => r.1.Released I
  := by
  unfold abort
  split
  case h_1 hnone =>
    rw [hold, hnone]
    exact .pure fun _ _ hI => ⟨hnone, hI⟩
  case h_2 p hsession =>
    rw [hold, hsession]
    apply Act.Ensures.bind_report
    apply Act.Ensures.bind (h.discard p.writer p.slot)
    intro _
    exact .pure fun _ _ hI => ⟨rfl, hI⟩

/-- A commit releases the slot, whatever it comes to. -/
theorem commit_custody (h : s.Custody I) :
  Act.Ensures (I programmer.hold) (programmer.commit s) fun r => r.1.Released I
  := by
  unfold commit
  split
  case h_1 hnone =>
    rw [hold, hnone]
    exact .pure fun _ _ hI => ⟨hnone, hI⟩
  case h_2 p hsession =>
    rw [hold, hsession]
    apply Act.Ensures.bind (Programming.flush_custody h p)
    rintro ⟨p, fault | ⟨⟩⟩
    · apply Act.Ensures.bind_report
      apply Act.Ensures.bind (h.discard p.writer p.slot)
      intro _
      exact .pure fun _ _ hI => ⟨rfl, hI⟩
    apply (h.finish p.writer p.slot).bind
    rintro (fault | ⟨⟩)
    · apply Act.Ensures.bind_report
      exact .pure fun _ _ hI => ⟨rfl, hI⟩
    apply (h.select p.slot).bind
    rintro (fault | ⟨⟩)
    · apply Act.Ensures.bind_report
      exact .pure fun _ _ hI => ⟨rfl, hI⟩
    · apply Act.Ensures.bind_report
      exact .pure fun _ _ hI => ⟨rfl, hI⟩

end Programmer

end FirmwareUpdate
