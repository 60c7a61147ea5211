import FirmwareUpdate.Proofs.Slot.Programming

/-!
# What a programmer takes in

However data are cut into pieces, a programming holds all that it has taken in: it has counted
and digested the pages that it has written, and the rest waits in its page. An installation tells
the size and the digest of all of it. Nor does it matter for the slot how the data are cut: taking
in two pieces is taking in both at once.
-/

namespace FirmwareUpdate

variable {σ ω α : Type} {I : Assertion σ} {s : Slots σ ω} {data : Bytes}

/-- Goes on after an act, unless it has failed. -/
def proceed (next : α → Act σ (α × Outcome)) : α × Outcome → Act σ (α × Outcome)
  | (a, .ok ()) => next a
  | (a, .error fault) => return (a, .error fault)

namespace Programming

variable {p : Programming ω}

/-- What has been written and what waits in the page make up `data`. -/
def Holds (p : Programming ω) (data : Bytes) : Prop :=
  ∃ written, p.cursor = written.length ∧ p.digest = Sha256.Stream.empty.update written
    ∧ written ++ p.page = data

/-- When the page is filled up and written, it begins anew. -/
theorem Holds.flushed (h : p.Holds data) (more : Bytes) :
  (p.flushed (p.page ++ more)).Holds (data ++ more)
  := by
  obtain ⟨written, hcursor, hdigest, hdata⟩ := h
  refine ⟨data ++ more, ?_, ?_, List.append_nil _⟩
  · simp only [Programming.flushed, hcursor, ← hdata, List.length_append, Nat.add_assoc]
  · simp only [Programming.flushed, hdigest, Sha256.Stream.update_update, ← hdata,
      List.append_assoc]

theorem writePage_keeps (hs : s.Keeps I) (p : Programming ω) (page : Bytes) :
  (p.writePage s page).Keeps I
  := by
  unfold writePage
  apply Act.Ensures.bind_report
  apply hs.write

/-- Taking in data adds to what a programming holds. -/
theorem stage_holds (hs : s.Keeps I) (p : Programming ω) (more : Bytes) (h : p.Holds data) :
  Act.Ensures I (p.stage s more)
    (fun r state calls => (r.2 = .ok () → r.1.Holds (data ++ more)) ∧ I state calls)
  := by
  induction p, more using stage_induction generalizing data
  case wait p more hwait =>
    rw [stage_wait hwait]
    apply Act.Ensures.pure
    intro _ _ hi
    refine ⟨fun _ => ?_, hi⟩
    obtain ⟨written, hcursor, hdigest, rfl⟩ := h
    exact ⟨written, hcursor, hdigest, (List.append_assoc _ _ _).symm⟩
  case fill p more hne hfull ih =>
    rw [stage_full hne hfull]
    apply Act.Ensures.bind (writePage_keeps hs p _)
    rintro (fault | _)
    · apply Act.Ensures.pure
      intro _ _ hi
      refine ⟨?_, hi⟩
      rintro ⟨⟩
    · have hdata : data ++ more = data ++ more.take (pageSize - p.page.length)
          ++ more.drop (pageSize - p.page.length) := by
        rw [List.append_assoc, List.take_append_drop]
      rw [hdata]
      apply ih (h.flushed _)

/-- Writing the page leaves nothing waiting. -/
theorem flush_holds (hs : s.Keeps I) (p : Programming ω) (h : p.Holds data) :
  Act.Ensures I (p.flush s)
    (fun r state calls => (r.2 = .ok () → r.1.Holds data ∧ r.1.page = []) ∧ I state calls)
  := by
  unfold flush
  split
  case isTrue hempty =>
    exact .pure fun _ _ hi => ⟨fun _ => ⟨h, List.isEmpty_iff.mp hempty⟩, hi⟩
  case isFalse =>
    apply Act.Ensures.bind (writePage_keeps hs p p.page)
    rintro (fault | _)
    · apply Act.Ensures.pure
      intro _ _ hi
      refine ⟨?_, hi⟩
      rintro ⟨⟩
    · have hflushed := h.flushed []
      rw [List.append_nil, List.append_nil] at hflushed
      exact .pure fun _ _ hi => ⟨fun _ => ⟨hflushed, rfl⟩, hi⟩

/-- With nothing waiting, the installation tells the size and the digest of the data. -/
theorem Holds.installation (h : p.Holds data) (hpage : p.page = []) :
  p.installation.size = data.length ∧ p.installation.digest = Sha256.hex data
  := by
  obtain ⟨written, hcursor, hdigest, rfl⟩ := h
  rw [hpage, List.append_nil]
  use hcursor
  rw [Programming.installation, hdigest]
  rfl

/-! ### Pieces -/

/-- More data fill up the page in which the first wait. -/
theorem stage_append_short (hshort : data.length < pageSize - p.page.length) (more : Bytes) :
  p.stage s (data ++ more) = stage s { p with page := p.page ++ data } more
  := by
  have hrest : pageSize - (p.page ++ data).length = pageSize - p.page.length - data.length := by
    rw [List.length_append, Nat.sub_add_eq]
  by_cases hmore : more.length < pageSize - p.page.length - data.length
  · rw [stage_wait (.inr _), stage_wait (.inr _), List.append_assoc]
    · dsimp only
      rw [hrest]
      exact hmore
    · rw [List.length_append]
      omega
  · have hne : more ≠ [] := by
      rintro rfl
      rw [List.length_nil] at hmore
      omega
    rw [stage_full, stage_full hne]
    · dsimp only
      rw [hrest, List.append_assoc, List.take_append, List.drop_append,
        List.take_of_length_le (Nat.le_of_lt hshort),
        List.drop_of_length_le (Nat.le_of_lt hshort)]
      rfl
    · dsimp only
      omega
    · simp [hne]
    · rw [List.length_append]
      omega

/-- Data may be taken in piece by piece. -/
theorem stage_append (p : Programming ω) (data more : Bytes) :
  p.stage s (data ++ more) = p.stage s data >>= proceed fun p => p.stage s more
  := by
  induction p, data using stage_induction
  case wait p data hwait =>
    rw [stage_wait hwait, pure_bind]
    obtain rfl | hshort := hwait
    · rw [List.nil_append, List.append_nil]
      rfl
    · rw [stage_append_short hshort]
      rfl
  case fill p data hdata hlength ih =>
    have hall : data ++ more ≠ [] := by simp [hdata]
    have hlonger : pageSize - p.page.length ≤ (data ++ more).length := by
      rw [List.length_append]
      omega
    rw [stage_full hdata hlength, stage_full hall hlonger, List.take_append_of_le_length hlength,
      List.drop_append_of_le_length hlength]
    dsimp only
    rw [bind_assoc]
    congr 1
    funext outcome
    cases outcome with
    | error _ => rfl
    | ok _ => apply ih

end Programming

namespace Programmer

variable {programmer : Programmer ω}

/-- An image is being written, and `data` is what of it has been taken in. -/
def Holds (programmer : Programmer ω) (data : Bytes) : Prop :=
  ∃ p, programmer.session = some p ∧ p.Holds data

/-- A new image is empty. -/
theorem begin_holds (hs : s.Keeps I) (programmer : Programmer ω) :
  Act.Ensures I (programmer.begin s)
    (fun r state calls => (r.2 = .ok () → r.1.Holds []) ∧ I state calls)
  := by
  unfold begin
  split
  · apply Act.Ensures.bind_report
    exact .pure fun _ _ hi => ⟨by rintro ⟨⟩, hi⟩
  apply Act.Ensures.bind hs.bootLabel
  intro label
  split
  · exact .pure fun _ _ hi => ⟨by rintro ⟨⟩, hi⟩
  split
  · exact .pure fun _ _ hi => ⟨by rintro ⟨⟩, hi⟩
  apply Act.Ensures.bind (hs.openWriter _)
  intro opened
  split
  · exact .pure fun _ _ hi => ⟨by rintro ⟨⟩, hi⟩
  apply Act.Ensures.bind_report
  exact .pure fun _ _ hi =>
    ⟨fun _ => ⟨_, rfl, [], rfl, Sha256.Stream.empty_update_nil.symm, rfl⟩, hi⟩

/-- Data may be written piece by piece. -/
theorem write_append (programmer : Programmer ω) (data more : Bytes) :
  programmer.write s (data ++ more)
    = programmer.write s data >>= proceed fun programmer => programmer.write s more
  := by
  unfold write
  cases programmer.session with
  | none => rfl
  | some p =>
      dsimp only
      rw [Programming.stage_append, bind_assoc, bind_assoc]
      congr 1
      funext r
      obtain ⟨p, _ | _⟩ := r
      · rfl
      · rfl

theorem write_holds (hs : s.Keeps I) (h : programmer.Holds data) (more : Bytes) :
  Act.Ensures I (programmer.write s more)
    (fun r state calls => (r.2 = .ok () → r.1.Holds (data ++ more)) ∧ I state calls)
  := by
  obtain ⟨p, hsession, hp⟩ := h
  unfold write
  rw [hsession]
  apply (Programming.stage_holds hs p more hp).bind
  intro r
  exact .pure fun _ _ ⟨hr, hi⟩ => ⟨fun hok => ⟨r.1, rfl, hr hok⟩, hi⟩

/-- An installation tells the size and the digest of the image that has been taken in. -/
theorem commit_holds (hs : s.Keeps I) (h : programmer.Holds data) :
  Act.Ensures I (programmer.commit s)
    (fun r state calls =>
      (∀ done, r.2 = .ok done → done.size = data.length ∧ done.digest = Sha256.hex data)
        ∧ I state calls)
  := by
  obtain ⟨p, hsession, hp⟩ := h
  unfold commit
  rw [hsession]
  apply (Programming.flush_holds hs p hp).bind
  rintro ⟨p, fault | _⟩
  · apply Act.Ensures.of_fact
    intro _
    apply Act.Ensures.bind_report
    apply Act.Ensures.bind (hs.discard p.writer p.slot)
    intro _
    exact .pure fun _ _ hi => ⟨by rintro _ ⟨⟩, hi⟩
  apply Act.Ensures.of_fact
  intro hflushed
  obtain ⟨hp, hpage⟩ := hflushed rfl
  apply Act.Ensures.bind (hs.finish p.writer p.slot)
  rintro (fault | _)
  · apply Act.Ensures.bind_report
    exact .pure fun _ _ hi => ⟨by rintro _ ⟨⟩, hi⟩
  apply Act.Ensures.bind (hs.select p.slot)
  rintro (fault | _)
  · apply Act.Ensures.bind_report
    exact .pure fun _ _ hi => ⟨by rintro _ ⟨⟩, hi⟩
  apply Act.Ensures.bind_report
  apply Act.Ensures.pure
  intro _ _ hi
  refine ⟨?_, hi⟩
  rintro _ ⟨rfl⟩
  apply hp.installation hpage

/-- Giving an image up never fails. -/
theorem abort_keeps (hs : s.Keeps I) (programmer : Programmer ω) :
  Act.Ensures I (programmer.abort s)
    (fun r state calls => (programmer.isOpen = true → r.2 = .ok ()) ∧ I state calls)
  := by
  unfold abort
  split
  case h_1 hsession =>
    exact .pure fun _ _ hi => ⟨by simp [isOpen, hsession], hi⟩
  case h_2 p hsession =>
    apply Act.Ensures.bind_report
    apply Act.Ensures.bind (hs.discard p.writer p.slot)
    intro _
    exact .pure fun _ _ hi => ⟨fun _ => rfl, hi⟩

end Programmer

end FirmwareUpdate
