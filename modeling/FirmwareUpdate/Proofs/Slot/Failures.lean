import FirmwareUpdate.Proofs.Slot.Losses

/-!
# What failures leave behind

Whatever the slots answer, an operation on a programmer that fails leaves a known state. An image
that cannot be begun leaves no slot open. A commit ends with nothing being written, and the slot has
been finished or discarded once, wherever the commit has failed; it has selected a slot only if it
has not failed. What does not fit to whether an image is being written is refused before any call is
made.

The main statement is `failures_atomic`.
-/

namespace FirmwareUpdate

variable {σ ω : Type} {s : Slots σ ω}

/-- The slot that a call has finished, well or not, or discarded. -/
def Call.released? : Call → Option String
  | .finish slot _ => some slot
  | .discard slot => some slot
  | _ => none

/-! ### Images that cannot be begun -/

/-- The calls with which an image cannot be begun, the latest first. -/
inductive SlotRing.Refuses (ring : SlotRing) (fault : Fault) : List Call → Prop
  | unreadable : ring.Refuses fault [.bootLabel (.error fault)]
  | foreign {running : String} :
      ring.next running = .error fault →
      ring.Refuses fault [.bootLabel (.ok running)]
  | unopened {running slot : String} :
      ring.next running = .ok slot →
      ring.Refuses fault [.openWriter slot (.error fault), .bootLabel (.ok running)]

/-- No slot has been opened when an image cannot be begun, and none has been selected. -/
theorem SlotRing.Refuses.idle {ring : SlotRing} {fault : Fault} {made : List Call}
    (h : ring.Refuses fault made) :
  ∀ call ∈ made, call.selection? = none ∧ ∀ slot, call ≠ .openWriter slot (.ok ())
  := by
  cases h with
  | unreadable => simp [Call.selection?]
  | foreign _ => simp [Call.selection?]
  | unopened _ => simp [Call.selection?]

namespace Programming

variable {p : Programming ω}

/-! ### Commits -/

/-- The calls with which what waits has been written. -/
def flushing (p : Programming ω) : List Call :=
  if p.page.isEmpty then [] else [.write p.slot p.page (.ok ())]

/-- What can come of a commit, with the calls that are made for it, the latest first: what waits
cannot be written, the image is rejected, its slot cannot be selected, or it is installed. -/
inductive Commits (p : Programming ω) : Except Fault Installation → List Call → Prop
  | unwritten (fault : Fault) :
      p.Commits (.error fault) [.discard p.slot, .write p.slot p.page (.error fault)]
  | rejected (fault : Fault) :
      p.Commits (.error fault) (.finish p.slot (.error fault) :: p.flushing)
  | unselected (fault : Fault) :
      p.Commits (.error fault)
        (.select p.slot (.error fault) :: .finish p.slot (.ok ()) :: p.flushing)
  | installed (done : Installation) :
      p.Commits (.ok done) (.select p.slot (.ok ()) :: .finish p.slot (.ok ()) :: p.flushing)

theorem flushing_keeps (p : Programming ω) :
  p.flushing.filterMap Call.released? = [] ∧ ∀ call ∈ p.flushing, call.selection? = none
  := by
  unfold flushing
  split
  · exact ⟨rfl, List.forall_mem_nil _⟩
  · exact ⟨rfl, List.forall_mem_singleton.mpr rfl⟩

/-- The slot is finished or discarded once, wherever a commit fails and also if it does not. -/
theorem Commits.released_once {result : Except Fault Installation} {made : List Call}
    (h : p.Commits result made) :
  made.filterMap Call.released? = [p.slot]
  := by
  have hflushing := p.flushing_keeps.1
  cases h with
  | unwritten fault => rfl
  | rejected fault => exact congrArg (List.cons p.slot) hflushing
  | unselected fault => exact congrArg (List.cons p.slot) hflushing
  | installed done => exact congrArg (List.cons p.slot) hflushing

/-- A commit that fails selects nothing. -/
theorem Commits.selects_nothing {fault : Fault} {made : List Call}
    (h : p.Commits (.error fault) made) :
  ∀ call ∈ made, call.selection? = none
  := by
  have hflushing := p.flushing_keeps.2
  cases h with
  | unwritten => simp [Call.selection?]
  | rejected => exact List.forall_mem_cons.mpr ⟨rfl, hflushing⟩
  | unselected =>
      exact List.forall_mem_cons.mpr ⟨rfl, List.forall_mem_cons.mpr ⟨rfl, hflushing⟩⟩

/-- Writing what waits is one call, if anything waits. -/
theorem flush_calls (p : Programming ω) (base : List Call) :
  Act.Ensures (fun _ calls => calls = base) (p.flush s) fun r _ calls =>
    r.1.slot = p.slot ∧ match r.2 with
      | .ok () => calls = p.flushing ++ base
      | .error fault => calls = .write p.slot p.page (.error fault) :: base
  := by
  unfold flush flushing
  split
  case isTrue => exact .pure fun _ _ h => ⟨rfl, h⟩
  case isFalse =>
    apply (writePage_calls p p.page base).bind
    rintro (fault | ⟨⟩)
    · exact .pure fun _ _ h => ⟨rfl, h⟩
    · exact .pure fun _ _ h => ⟨rfl, h⟩

end Programming

namespace Programmer

variable {programmer : Programmer ω}

/-- An image that cannot be begun changes nothing about a programmer. -/
theorem begin_refuses (hsession : programmer.session = none) (base : List Call) :
  Act.Ensures (fun _ calls => calls = base) (programmer.begin s) fun r _ calls =>
    ∀ fault, r.2 = .error fault →
      r.1 = programmer ∧ ∃ made, calls = made ++ base ∧ programmer.ring.Refuses fault made
  := by
  unfold begin isOpen
  rw [hsession]
  apply Act.Ensures.bind_perform fun label _ calls => calls = .bootLabel label :: base
  · rintro _ _ rfl
    rfl
  rintro (fault | running)
  · apply Act.Ensures.pure
    rintro _ _ rfl _ ⟨rfl⟩
    exact ⟨rfl, [_], rfl, .unreadable⟩
  dsimp only
  split
  case h_1 fault hnext =>
    apply Act.Ensures.pure
    rintro _ _ rfl _ ⟨rfl⟩
    exact ⟨rfl, [_], rfl, .foreign hnext⟩
  case h_2 slot hnext =>
    apply Act.Ensures.bind_perform fun writer _ calls =>
      calls = .openWriter slot (Functor.discard writer) :: .bootLabel (.ok running) :: base
    · rintro _ _ rfl
      rfl
    rintro (fault | writer)
    · apply Act.Ensures.pure
      rintro _ _ rfl _ ⟨rfl⟩
      exact ⟨rfl, [_, _], rfl, .unopened hnext⟩
    · apply Act.Ensures.bind_report
      exact .pure fun _ _ _ => by rintro _ ⟨⟩

/-- What a commit comes to. -/
theorem commit_commits {p : Programming ω} (hsession : programmer.session = some p)
    (base : List Call) :
  Act.Ensures (fun _ calls => calls = base) (programmer.commit s) fun r _ calls =>
    r.1 = programmer.closed ∧ ∃ made, calls = made ++ base ∧ p.Commits r.2 made
  := by
  unfold commit
  rw [hsession]
  apply (Programming.flush_calls p base).bind
  rintro ⟨after, fault | ⟨⟩⟩
  · apply Act.Ensures.of_fact
    intro hslot
    apply Act.Ensures.bind_report
    apply Act.Ensures.bind_perform fun _ _ calls =>
      calls = .discard p.slot :: .write p.slot p.page (.error fault) :: base
    · rintro _ _ rfl
      rw [hslot]
    intro _
    apply Act.Ensures.pure
    rintro _ _ rfl
    exact ⟨rfl, [_, _], rfl, .unwritten fault⟩
  · apply Act.Ensures.of_fact
    intro hslot
    apply Act.Ensures.bind_perform fun outcome _ calls =>
      calls = .finish p.slot outcome :: (p.flushing ++ base)
    · rintro _ _ rfl
      rw [hslot]
    rintro (fault | ⟨⟩)
    · apply Act.Ensures.bind_report
      apply Act.Ensures.pure
      rintro _ _ rfl
      exact ⟨rfl, _ :: p.flushing, rfl, .rejected fault⟩
    apply Act.Ensures.bind_perform fun outcome _ calls =>
      calls = .select p.slot outcome :: .finish p.slot (.ok ()) :: (p.flushing ++ base)
    · rintro _ _ rfl
      rw [hslot]
    rintro (fault | ⟨⟩)
    · apply Act.Ensures.bind_report
      apply Act.Ensures.pure
      rintro _ _ rfl
      exact ⟨rfl, _ :: _ :: p.flushing, rfl, .unselected fault⟩
    · apply Act.Ensures.bind_report
      apply Act.Ensures.pure
      rintro _ _ rfl
      exact ⟨rfl, _ :: _ :: p.flushing, rfl, .installed _⟩

/-- What is left of an operation, whatever the slots answer and whatever has been done before.

With nothing being written:
* if an image cannot be begun, the programmer is as before, no slot has been opened and none
  selected;
* writing, committing and giving up are refused, and nothing else happens.

While an image is being written:
* beginning another one is refused, and no call is made;
* after a commit nothing is being written, the slot has been finished or discarded once, and if the
  commit has failed, no slot has been selected;
* giving up always goes well, and its one call discards the slot. -/
theorem failures_atomic (s : Slots σ ω) (programmer : Programmer ω) (scene : Scene σ) :
  match programmer.session with
  | none =>
    (∀ fault, (programmer.begin s scene).1.2 = .error fault →
      (programmer.begin s scene).1.1 = programmer
        ∧ ∃ made, (programmer.begin s scene).2.calls = made ++ scene.calls
          ∧ programmer.ring.Refuses fault made
          ∧ ∀ call ∈ made, call.selection? = none ∧ ∀ slot, call ≠ .openWriter slot (.ok ()))
    ∧ (∀ data, programmer.write s data scene
        = ((programmer, .error (.sessionState .notOpen)), scene))
    ∧ programmer.commit s scene = ((programmer, .error (.sessionState .notOpen)), scene)
    ∧ programmer.abort s scene = ((programmer, .error (.sessionState .notOpen)), scene)
  | some p =>
    ((programmer.begin s scene).1 = (programmer, .error (.sessionState .alreadyOpen))
      ∧ (programmer.begin s scene).2.state = scene.state
      ∧ (programmer.begin s scene).2.calls = scene.calls)
    ∧ ((programmer.commit s scene).1.1 = programmer.closed
      ∧ ∃ made, (programmer.commit s scene).2.calls = made ++ scene.calls
        ∧ p.Commits (programmer.commit s scene).1.2 made
        ∧ made.filterMap Call.released? = [p.slot]
        ∧ ∀ fault, (programmer.commit s scene).1.2 = .error fault →
          ∀ call ∈ made, call.selection? = none)
    ∧ ((programmer.abort s scene).1 = (programmer.closed, .ok ())
      ∧ (programmer.abort s scene).2.calls = .discard p.slot :: scene.calls)
  := by
  split
  case h_1 hsession =>
    refine ⟨?_, ?_, ?_, ?_⟩
    · intro fault hfault
      obtain ⟨hafter, made, hcalls, hmade⟩ :=
        (begin_refuses (s := s) hsession scene.calls).run scene rfl fault hfault
      exact ⟨hafter, made, hcalls, hmade, hmade.idle⟩
    · intro data
      rw [write, hsession]
      rfl
    · rw [commit, hsession]
      rfl
    · rw [abort, hsession]
      rfl
  case h_2 p hsession =>
    refine ⟨?_, ?_, ?_⟩
    · rw [begin, isOpen, hsession]
      exact ⟨rfl, rfl, rfl⟩
    · obtain ⟨hafter, made, hcalls, hmade⟩ :=
        (commit_commits (s := s) hsession scene.calls).run scene rfl
      refine ⟨hafter, made, hcalls, hmade, hmade.released_once, fun fault hfault => ?_⟩
      rw [hfault] at hmade
      exact hmade.selects_nothing
    · rw [abort, hsession]
      exact ⟨rfl, rfl⟩

open Bench.Rig in
/-- What waits cannot be written, and the slot is discarded. -/
theorem failures_atomic_sample :
  let programmer : Programmer String :=
    { session := some { writer := "ota_0", slot := "ota_0", page := [65] } }
  let scene : Scene Bench.Rig := { state := wornRig }
  (programmer.commit slotTable scene).1.2 = .error (.storageWrite "worn")
    ∧ (programmer.commit slotTable scene).1.1 = programmer.closed
    ∧ ∃ made, (programmer.commit slotTable scene).2.calls = made ++ []
      ∧ made.filterMap Call.released? = ["ota_0"] ∧ ∀ call ∈ made, call.selection? = none
  := by
  intro programmer scene
  have hfails : (programmer.commit slotTable scene).1.2 = .error (.storageWrite "worn") := rfl
  obtain ⟨-, ⟨hclosed, made, hcalls, -, hreleased, hnone⟩, -⟩ :=
    failures_atomic slotTable programmer scene
  exact ⟨hfails, hclosed, made, hcalls, hreleased, hnone _ hfails⟩

end Programmer

end FirmwareUpdate
