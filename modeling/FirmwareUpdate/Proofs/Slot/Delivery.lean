import FirmwareUpdate.Proofs.Slot.Intake

/-!
# Slots that take an image

Slots that fail with none of the operations by which an image is installed have it installed. While
it is being written, the slot holds the pages that have been written, and what waits in the page
follows them; the commit writes the rest, has the image checked and selects the slot.
-/

namespace FirmwareUpdate

variable {σ ω : Type}

/-- What holds of a platform on the passage of an image into a slot: before the slot is opened,
while a part of the image is what the slot of a writer holds, and once it has been checked. -/
structure Passage (σ ω : Type) where
  idle : σ → Prop
  holding : ω → Bytes → σ → Prop
  checked : σ → Prop

/-- The slots take an image into a slot while `boot` is selected: none of the operations fails that
follow each other on its passage. -/
structure Slots.Take (s : Slots σ ω) (passage : Passage σ ω) (boot slot : String)
    (image : Bytes) : Prop where
  discard : ∀ writer site, passage.idle site.state →
    passage.idle (s.discard writer site).2.state
  bootLabel : ∀ site, passage.idle site.state →
    (s.bootLabel site).1 = .ok boot ∧ passage.idle (s.bootLabel site).2.state
  openWriter : ∀ site, passage.idle site.state → ∃ writer,
    (s.openWriter slot site).1 = .ok writer
      ∧ passage.holding writer [] (s.openWriter slot site).2.state
  write : ∀ writer written page site, written ++ page <+: image →
    passage.holding writer written site.state →
    (s.write writer page site).1 = .ok ()
      ∧ passage.holding writer (written ++ page) (s.write writer page site).2.state
  finish : ∀ writer site, passage.holding writer image site.state →
    (s.finish writer site).1 = .ok () ∧ passage.checked (s.finish writer site).2.state
  select : ∀ site, passage.checked site.state → (s.select slot site).1 = .ok ()

variable {s : Slots σ ω} {passage : Passage σ ω} {boot slot : String} {image data : Bytes}

namespace Programming

variable {p : Programming ω}

/-- A programming on its way with `data`: what it has written is in its slot, counted and digested,
and the rest waits in its page. -/
structure Conveys (passage : Passage σ ω) (slot : String) (data : Bytes) (p : Programming ω)
    (state : σ) (calls : List Call) : Prop where
  slot_eq : p.slot = slot
  written : ∃ written, p.cursor = written.length ∧ p.digest = Sha256.Stream.empty.update written
    ∧ written ++ p.page = data ∧ imageIn slot calls = some written
    ∧ passage.holding p.writer written state

theorem Conveys.holds {state : σ} {calls : List Call}
    (h : p.Conveys passage slot data state calls) :
  p.Holds data
  := by
  obtain ⟨written, hcursor, hdigest, hdata, -⟩ := h.written
  exact ⟨written, hcursor, hdigest, hdata⟩

/-- The page is written, filled up with more of the data. -/
theorem writePage_conveys (hs : s.Take passage boot slot image) (more : Bytes)
    (hstart : data ++ more <+: image) :
  Act.Ensures (p.Conveys passage slot data) (p.writePage s (p.page ++ more))
    (fun outcome state calls => outcome = .ok ()
      ∧ (p.flushed (p.page ++ more)).Conveys passage slot (data ++ more) state calls)
  := by
  unfold writePage
  apply Act.Ensures.bind_report
  apply Act.Ensures.perform
  intro site calls h
  obtain ⟨rfl, written, hcursor, hdigest, rfl, himage, hholding⟩ := h
  rw [List.append_assoc] at hstart ⊢
  obtain ⟨hok, hafter⟩ := hs.write p.writer written (p.page ++ more) site hstart hholding
  rw [hok]
  refine ⟨rfl, rfl, written ++ (p.page ++ more), ?_, ?_, List.append_nil _, ?_, hafter⟩
  · simp only [flushed, hcursor, List.length_append]
  · simp only [flushed, hdigest, Sha256.Stream.update_update]
  · rw [imageIn_cons_target rfl, himage]
    rfl

/-- More of the image is taken in. -/
theorem stage_conveys (hs : s.Take passage boot slot image) (p : Programming ω) (more : Bytes)
    (hstart : data ++ more <+: image) :
  Act.Ensures (p.Conveys passage slot data) (p.stage s more)
    (fun r state calls => r.2 = .ok () ∧ r.1.Conveys passage slot (data ++ more) state calls)
  := by
  induction p, more using stage_induction generalizing data
  case wait p more hwait =>
    rw [stage_wait hwait]
    apply Act.Ensures.pure
    rintro state calls ⟨hslot, written, hcursor, hdigest, rfl, hholding⟩
    exact ⟨rfl, hslot, written, hcursor, hdigest, (List.append_assoc _ _ _).symm, hholding⟩
  case fill p more hne hfull ih =>
    have hmore : data ++ more = data ++ more.take (pageSize - p.page.length)
        ++ more.drop (pageSize - p.page.length) := by
      rw [List.append_assoc, List.take_append_drop]
    rw [stage_full hne hfull]
    rw [hmore] at hstart ⊢
    apply (writePage_conveys hs _ ((List.prefix_append _ _).trans hstart)).bind
    intro outcome
    apply Act.Ensures.of_fact
    rintro rfl
    apply ih hstart

/-- What waits in the page is written. -/
theorem flush_conveys (hs : s.Take passage boot slot image) (p : Programming ω) :
  Act.Ensures (p.Conveys passage slot image) (p.flush s)
    (fun r state calls => (r.2 = .ok () ∧ r.1.page = [])
      ∧ r.1.Conveys passage slot image state calls)
  := by
  unfold flush
  split
  case isTrue hempty => exact .pure fun _ _ h => ⟨⟨rfl, List.isEmpty_iff.mp hempty⟩, h⟩
  case isFalse =>
    have hstart : image ++ [] <+: image := by simp
    have hwritten := writePage_conveys (p := p) hs [] hstart
    rw [List.append_nil, List.append_nil] at hwritten
    apply hwritten.bind
    intro outcome
    apply Act.Ensures.of_fact
    rintro rfl
    exact .pure fun _ _ h => ⟨⟨rfl, rfl⟩, h⟩

end Programming

namespace Programmer

variable {programmer : Programmer ω}

/-- A programmer on its way with `data`. -/
def Conveys (passage : Passage σ ω) (slot : String) (data : Bytes) (programmer : Programmer ω) :
    Assertion σ :=
  fun state calls =>
    ∃ p, programmer.session = some p ∧ p.Conveys passage slot data state calls

/-- The slot is opened. -/
theorem begin_conveys (hs : s.Take passage boot slot image) (hclosed : programmer.session = none)
    (hnext : programmer.ring.next boot = .ok slot) :
  Act.Ensures (fun state _ => passage.idle state) (programmer.begin s)
    (fun r state calls => r.2 = .ok () ∧ r.1.Conveys passage slot [] state calls)
  := by
  unfold begin
  rw [if_neg (by simp [isOpen, hclosed])]
  apply Act.Ensures.bind_perform fun label state _ => label = .ok boot ∧ passage.idle state
  · exact fun site _ h => hs.bootLabel site h
  intro label
  apply Act.Ensures.of_fact
  rintro rfl
  dsimp only
  rw [hnext]
  dsimp only
  apply Act.Ensures.bind_perform fun opened state calls => ∃ writer, opened = .ok writer
    ∧ imageIn slot calls = some [] ∧ passage.holding writer [] state
  · intro site calls h
    obtain ⟨writer, hok, hholding⟩ := hs.openWriter site h
    rw [hok]
    exact ⟨writer, rfl, imageIn_cons_target rfl, hholding⟩
  intro opened
  apply Act.Ensures.of_forall
  rintro state calls ⟨writer, rfl, himage, hholding⟩
  apply Act.Ensures.bind_report
  apply Act.Ensures.pure
  rintro _ _ ⟨rfl, rfl⟩
  exact ⟨rfl, _, rfl, rfl, [], rfl, Sha256.Stream.empty_update_nil.symm, rfl, himage, hholding⟩

/-- More of the image is taken in. -/
theorem write_conveys (hs : s.Take passage boot slot image) (programmer : Programmer ω)
    (more : Bytes) (hstart : data ++ more <+: image) :
  Act.Ensures (programmer.Conveys passage slot data) (programmer.write s more)
    (fun r state calls => r.2 = .ok () ∧ r.1.Conveys passage slot (data ++ more) state calls)
  := by
  apply Act.Ensures.of_forall
  rintro state calls ⟨p, hsession, h⟩
  unfold write
  rw [hsession]
  apply Act.Ensures.bind
  · apply (Programming.stage_conveys hs p more hstart).imp_left
    rintro _ _ ⟨rfl, rfl⟩
    apply h
  rintro ⟨p, outcome⟩
  exact .pure fun _ _ h => ⟨h.1, p, rfl, h.2⟩

/-- The image is installed: it is in its slot as it was taken in. -/
theorem commit_conveys (hs : s.Take passage boot slot image) (programmer : Programmer ω) :
  Act.Ensures (programmer.Conveys passage slot image) (programmer.commit s)
    (fun r _ calls => r.2 = .ok ⟨slot, image.length, Sha256.hex image⟩
      ∧ imageIn slot calls = some image)
  := by
  apply Act.Ensures.of_forall
  rintro state calls ⟨p, hsession, h⟩
  unfold commit
  rw [hsession]
  apply Act.Ensures.bind
  · apply (Programming.flush_conveys hs p).imp_left
    rintro _ _ ⟨rfl, rfl⟩
    apply h
  rintro ⟨p, outcome⟩
  apply Act.Ensures.of_fact
  rintro ⟨rfl, hpage⟩
  apply Act.Ensures.of_forall
  intro state calls h
  have hdone : p.installation = ⟨slot, image.length, Sha256.hex image⟩ := by
    obtain ⟨hsize, hdigest⟩ := h.holds.installation hpage
    rw [← hsize, ← hdigest, ← h.slot_eq]
    rfl
  obtain ⟨rfl, written, -, -, rfl, himage, hholding⟩ := h
  rw [hpage, List.append_nil] at hs hdone ⊢
  dsimp only
  apply Act.Ensures.bind_perform fun finished state calls =>
    finished = .ok () ∧ imageIn p.slot calls = some written ∧ passage.checked state
  · rintro site _ ⟨rfl, rfl⟩
    obtain ⟨hok, hchecked⟩ := hs.finish p.writer site hholding
    rw [hok, imageIn_cons_target rfl]
    exact ⟨rfl, himage, hchecked⟩
  intro finished
  apply Act.Ensures.of_fact
  rintro rfl
  apply Act.Ensures.bind_perform fun chosen _ calls =>
    chosen = .ok () ∧ imageIn p.slot calls = some written
  · rintro site calls ⟨himage, hchecked⟩
    rw [hs.select site hchecked, imageIn_cons (by rintro ⟨⟩)]
    exact ⟨rfl, himage⟩
  intro chosen
  apply Act.Ensures.of_fact
  rintro rfl
  dsimp only
  rw [hdone]
  apply Act.Ensures.bind_report
  exact .pure fun _ _ h => ⟨rfl, h⟩

end Programmer

end FirmwareUpdate
