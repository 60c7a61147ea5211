import Mathlib.Data.List.Chain
import FirmwareUpdate.Proofs.Slot.Pages
import FirmwareUpdate.Proofs.Worker.Decision

/-!
# What is lost with a page that cannot be written

When a page cannot be written, it stays full and the data after it are dropped; the programmer goes
on with what it has, and whoever does not want that has to give the image up. The page is written
before anything else is, so that there is no gap in the slot: what is installed is always what has
been taken in, and it is all of the data if no write has failed. Nothing but a commit that goes well
selects a slot.

The main statement is `Programmed.installs_taken`.
-/

namespace FirmwareUpdate

variable {σ ω : Type} {s : Slots σ ω} {m : Medium σ ω}

/-! ### Slots of which writes may fail in any way -/

/-- The slots keep on a medium what is written to them. A slot is empty when it has been opened, and
a writer adds to its slot what it writes; nothing is known of what a write that fails leaves there.
Neither the check of an image nor a selection changes what is in a slot. -/
structure Slots.Appends (s : Slots σ ω) (m : Medium σ ω) : Prop where
  openWriter : ∀ slot site writer, (s.openWriter slot site).1 = .ok writer →
    m.writesTo writer slot (s.openWriter slot site).2.state
      ∧ m.content slot (s.openWriter slot site).2.state = []
  write : ∀ writer slot page site, m.writesTo writer slot site.state →
    (s.write writer page site).1 = .ok () →
    m.writesTo writer slot (s.write writer page site).2.state
      ∧ m.content slot (s.write writer page site).2.state = m.content slot site.state ++ page
  finish : ∀ writer slot site, m.writesTo writer slot site.state →
    m.content slot (s.finish writer site).2.state = m.content slot site.state
  select : ∀ slot selected site,
    m.content slot (s.select selected site).2.state = m.content slot site.state

/-- Slots on which nothing is stored by a write that fails are a special case. -/
theorem Slots.Stores.appends (h : s.Stores m) :
  s.Appends m
  where
  openWriter := h.openWriter
  write writer slot page site hwrites hok := by
    have hwrite := h.write writer slot page site hwrites
    rw [hok] at hwrite
    exact hwrite
  finish := h.finish
  select := h.select

/-- The writer writes to the slot, which holds what has been stored in it by the record. -/
def Medium.Matches (m : Medium σ ω) (writer : ω) (slot : String) : Assertion σ :=
  fun state calls =>
    m.writesTo writer slot state ∧ m.content slot state = (storedIn slot calls).flatten

/-! ### What has been tried -/

/-- The calls that store pages in a slot, the latest first. -/
def storing (slot : String) (pages : List Bytes) : List Call :=
  pages.map (.write slot · (.ok ()))

theorem storing_append (slot : String) (pages earlier : List Bytes) :
  storing slot (pages ++ earlier) = storing slot pages ++ storing slot earlier
  := List.map_append

theorem storing_concat (slot : String) (pages : List Bytes) (page : Bytes) (calls : List Call) :
  storing slot (pages ++ [page]) ++ calls
    = storing slot pages ++ .write slot page (.ok ()) :: calls
  := by
  rw [storing_append, List.append_assoc]
  rfl

/-- What comes before a page that could not be written can be told from what was stored after it. -/
theorem storing_inj {slot : String} {page page' : Bytes} {fault fault' : Fault}
    {calls calls' : List Call} {pages pages' : List Bytes}
    (h : storing slot pages ++ .write slot page (.error fault) :: calls
      = storing slot pages' ++ .write slot page' (.error fault') :: calls') :
  page = page' ∧ calls = calls'
  := by
  induction pages generalizing pages' with
  | nil =>
      cases pages' with
      | nil =>
          obtain ⟨hcall, hcalls⟩ := List.cons.inj h
          obtain ⟨-, hpage, -⟩ := Call.write.inj hcall
          exact ⟨hpage, hcalls⟩
      | cons last earlier =>
          obtain ⟨hcall, -⟩ := List.cons.inj h
          cases hcall
  | cons last earlier ih =>
      cases pages' with
      | nil =>
          obtain ⟨hcall, -⟩ := List.cons.inj h
          cases hcall
      | cons last' earlier' => exact ih (List.cons.inj h).2

/-- The pages that it was tried to write to a slot since it was opened, with what came of it, the
latest first. -/
def triesIn (slot : String) : List Call → List (Bytes × Outcome)
  | [] => []
  | .openWriter label (.ok ()) :: earlier => if label = slot then [] else triesIn slot earlier
  | .write label page outcome :: earlier =>
    if label = slot then (page, outcome) :: triesIn slot earlier else triesIn slot earlier
  | _ :: earlier => triesIn slot earlier

/-- A page that could not be written is the next that it is tried to write. -/
def Insists (slot : String) (calls : List Call) : Prop :=
  (triesIn slot calls).IsChain fun later earlier => earlier.2 = .ok () ∨ later.1 = earlier.1

theorem insists_write_iff {slot : String} {page : Bytes} {outcome : Outcome} {calls : List Call} :
  Insists slot (.write slot page outcome :: calls)
    ↔ (∀ last ∈ (triesIn slot calls).head?, last.2 = .ok () ∨ page = last.1) ∧ Insists slot calls
  := by
  have htries : triesIn slot (.write slot page outcome :: calls)
      = (page, outcome) :: triesIn slot calls := if_pos rfl
  rw [Insists, htries]
  exact List.isChain_cons

/-! ### What has been taken in -/

/-- What has been taken in since the slot was opened, by what has been done and by the calls that
came of it, both with the latest first: all data of a write that went well, and of a write that
failed its data up to the end of the page that could not be written. A write stores pages in the
slot, and if it fails, the page that could not be written is the one of its last call: what was in
the slot then makes up, together with this page, what had been taken in then. -/
inductive TakenIn (slot : String) : List Deed → List Call → Bytes → Prop
  | begun {deeds : List Deed} {calls : List Call} :
      TakenIn slot (.begin (.ok ()) :: deeds) (.openWriter slot (.ok ()) :: calls) []
  | refused {deeds : List Deed} {calls : List Call} {data : Bytes} (fault : Fault) :
      TakenIn slot deeds calls data →
      TakenIn slot (.begin (.error fault) :: deeds) calls data
  | written {deeds : List Deed} {calls : List Call} {data : Bytes} (more : Bytes)
      (pages : List Bytes) :
      TakenIn slot deeds calls data →
      TakenIn slot (.write more (.ok ()) :: deeds) (storing slot pages ++ calls) (data ++ more)
  | halted {deeds : List Deed} {calls : List Call} {data head more page : Bytes} (fault : Fault)
      (pages : List Bytes) :
      TakenIn slot deeds calls data →
      head <+: more →
      page.length = pageSize →
      (storedIn slot (storing slot pages ++ calls)).flatten ++ page = data ++ head →
      TakenIn slot (.write more (.error fault) :: deeds)
        (.write slot page (.error fault) :: (storing slot pages ++ calls)) (data ++ head)

namespace TakenIn

variable {slot : String} {deeds : List Deed} {calls : List Call} {data : Bytes}

/-- If no write has failed, all data have been taken in. -/
theorem eq_of_taken {all : Bytes} (h : TakenIn slot deeds calls data)
    (htaken : taken? deeds = some all) :
  data = all
  := by
  induction h generalizing all with
  | begun => exact Option.some.inj htaken
  | refused fault _ ih => exact ih htaken
  | written more pages _ ih =>
      obtain ⟨earlier, hearlier, rfl⟩ := Option.map_eq_some_iff.mp htaken
      rw [ih hearlier]
  | halted fault pages _ _ _ _ _ => cases htaken

/-- It does not matter to which of the writes that went well the pages are ascribed that have been
stored between two that failed. -/
theorem eq_of_storing {calls' : List Call} {data' : Bytes} {pages pages' : List Bytes}
    (h : TakenIn slot deeds calls data) (h' : TakenIn slot deeds calls' data')
    (hcalls : storing slot pages ++ calls = storing slot pages' ++ calls') :
  data = data'
  := by
  induction h generalizing calls' data' pages pages' with
  | begun =>
      cases h' with
      | begun => rfl
  | refused fault _ ih =>
      cases h' with
      | refused _ h' => exact ih h' hcalls
  | written more stored _ ih =>
      cases h' with
      | written _ stored' h' =>
          rw [← List.append_assoc, ← List.append_assoc, ← storing_append,
            ← storing_append] at hcalls
          rw [ih h' hcalls]
  | halted fault stored _ _ _ hdata _ =>
      cases h' with
      | halted _ stored' _ _ _ hdata' =>
          obtain ⟨rfl, hearlier⟩ := storing_inj hcalls
          rw [← hdata, ← hdata', hearlier]

/-- What has been taken in is told by what has been done and the calls that came of it. -/
theorem unique {data' : Bytes} (h : TakenIn slot deeds calls data)
    (h' : TakenIn slot deeds calls data') :
  data = data'
  := h.eq_of_storing h' (show storing slot [] ++ calls = storing slot [] ++ calls from rfl)

end TakenIn

namespace Programming

variable {p : Programming ω} {data : Bytes} {calls : List Call}

/-- What has been stored and what waits make up `data`, and the cursor and the digest are those of
what has been stored. -/
structure Counts (p : Programming ω) (data : Bytes) (calls : List Call) : Prop where
  data_eq : (storedIn p.slot calls).flatten ++ p.page = data
  cursor_eq : p.cursor = (storedIn p.slot calls).flatten.length
  digest_eq : p.digest = Sha256.Stream.empty.update (storedIn p.slot calls).flatten

/-- If the last try to write a page has failed, that page still waits, and there is no room in it;
and so it was with all tries before. -/
structure Insisting (p : Programming ω) (calls : List Call) : Prop where
  insists : Insists p.slot calls
  waits : ∀ last ∈ (triesIn p.slot calls).head?,
    last.2 = .ok () ∨ p.page = last.1 ∧ p.page.length = pageSize

/-- What waits is not more than a page, and it has been accounted for. -/
structure Accounted (p : Programming ω) (data : Bytes) (calls : List Call) : Prop
    extends p.Counts data calls, p.Insisting calls where
  page_le : p.page.length ≤ pageSize

/-- More data wait. -/
theorem Counts.withMore (h : p.Counts data calls) (more : Bytes) :
  Counts { p with page := p.page ++ more } (data ++ more) calls
  := by
  refine ⟨?_, h.cursor_eq, h.digest_eq⟩
  rw [← List.append_assoc, h.data_eq]

/-- What waits has been stored. -/
theorem Counts.stored {page : Bytes} (h : Counts { p with page } data calls) :
  (p.flushed page).Counts data (.write p.slot page (.ok ()) :: calls)
  := by
  have hstored : (storedIn p.slot (.write p.slot page (.ok ()) :: calls)).flatten
      = (storedIn p.slot calls).flatten ++ page := by
    rw [storedIn, if_pos rfl, List.flatten_concat]
  constructor
  · exact (List.append_nil _).trans (hstored.trans h.data_eq)
  · dsimp only [flushed]
    rw [hstored, List.length_append, ← h.cursor_eq]
  · dsimp only [flushed]
    rw [hstored, h.digest_eq, Sha256.Stream.update_update]

/-- A page that waits because it could not be written is full, so that it is what is tried next. -/
theorem Insisting.tried (h : p.Insisting calls) {more : Bytes}
    (hle : (p.page ++ more).length ≤ pageSize) (outcome : Outcome) :
  Insists p.slot (.write p.slot (p.page ++ more) outcome :: calls)
  := by
  apply insists_write_iff.mpr ⟨?_, h.insists⟩
  intro last hlast
  obtain hok | ⟨hpage, hfull⟩ := h.waits last hlast
  · exact .inl hok
  · rw [List.length_append, hfull] at hle
    have hmore : more = [] := List.eq_nil_of_length_eq_zero (by omega)
    rw [hmore, List.append_nil]
    exact .inr hpage

/-- Data that do not fill the page wait in it. -/
theorem Accounted.wait {more : Bytes} (h : p.Accounted data calls)
    (hwait : more = [] ∨ more.length < pageSize - p.page.length) :
  Accounted { p with page := p.page ++ more } (data ++ more) calls
  := by
  refine ⟨h.withMore more, ⟨h.insists, ?_⟩, ?_⟩
  · intro last hlast
    obtain hok | ⟨hpage, hfull⟩ := h.waits last hlast
    · exact .inl hok
    · have hmore : more = [] := hwait.resolve_right (by omega)
      rw [hmore, List.append_nil]
      exact .inr ⟨hpage, hfull⟩
  · have := h.page_le
    obtain rfl | hshort := hwait
    · rwa [List.append_nil]
    · rw [List.length_append]
      omega

/-- A full page has been stored. -/
theorem Accounted.stored {more : Bytes} (h : p.Accounted data calls)
    (hfull : (p.page ++ more).length = pageSize) :
  (p.flushed (p.page ++ more)).Accounted (data ++ more)
    (.write p.slot (p.page ++ more) (.ok ()) :: calls)
  := by
  refine ⟨(h.withMore more).stored, ⟨h.tried (Nat.le_of_eq hfull) _, ?_⟩, Nat.zero_le _⟩
  intro last hlast
  rw [flushed, triesIn, if_pos rfl] at hlast
  cases hlast
  exact .inl rfl

/-- A full page could not be written, and waits. -/
theorem Accounted.stuck {more : Bytes} (h : p.Accounted data calls)
    (hfull : (p.page ++ more).length = pageSize) (fault : Fault) :
  Accounted { p with page := p.page ++ more } (data ++ more)
    (.write p.slot (p.page ++ more) (.error fault) :: calls)
  := by
  have hcounts := h.withMore more
  refine ⟨⟨hcounts.data_eq, hcounts.cursor_eq, hcounts.digest_eq⟩,
    ⟨h.tried (Nat.le_of_eq hfull) _, ?_⟩, Nat.le_of_eq hfull⟩
  intro last hlast
  rw [triesIn, if_pos rfl] at hlast
  cases hlast
  exact .inr ⟨rfl, hfull⟩

/-- What comes of taking in `more` after `data`: all of it has been taken in, or the last call is
one that could not write a page, with the data up to its end in it. -/
inductive Stages (p : Programming ω) (more data : Bytes) (before : List Call) :
    Programming ω × Outcome → List Call → Prop
  | all {after : Programming ω} (pages : List Bytes) :
      after.slot = p.slot →
      after.Accounted (data ++ more) (storing p.slot pages ++ before) →
      Stages p more data before (after, .ok ()) (storing p.slot pages ++ before)
  | halted {after : Programming ω} {head : Bytes} (fault : Fault) (pages : List Bytes) :
      after.slot = p.slot →
      head <+: more →
      after.page.length = pageSize →
      after.Accounted (data ++ head)
        (.write p.slot after.page (.error fault) :: (storing p.slot pages ++ before)) →
      Stages p more data before (after, .error fault)
        (.write p.slot after.page (.error fault) :: (storing p.slot pages ++ before))

/-- What comes after a page that has been stored comes of all data. -/
theorem Stages.after_stored {head rest page : Bytes} {before : List Call}
    {r : Programming ω × Outcome}
    (h : (p.flushed page).Stages rest (data ++ head) (.write p.slot page (.ok ()) :: before) r
      calls) :
  p.Stages (head ++ rest) data before r calls
  := by
  have hrecord : ∀ pages,
      storing (p.flushed page).slot pages ++ .write p.slot page (.ok ()) :: before
        = storing p.slot (pages ++ [page]) ++ before :=
    fun pages => (storing_concat p.slot pages page before).symm
  cases h with
  | all pages hslot hafter =>
      rw [hrecord, List.append_assoc data] at hafter
      rw [hrecord]
      exact .all _ hslot hafter
  | halted fault pages hslot hhead hfull hafter =>
      rw [hrecord, List.append_assoc data] at hafter
      rw [hrecord]
      exact .halted fault _ hslot ((List.prefix_append_right_inj head).mpr hhead) hfull hafter

/-- A call leaves its entry. -/
theorem writePage_calls (p : Programming ω) (page : Bytes) (base : List Call) :
  Act.Ensures (fun _ calls => calls = base) (p.writePage s page) fun outcome _ calls =>
    calls = .write p.slot page outcome :: base
  := by
  unfold writePage
  apply Act.Ensures.bind_report
  apply Act.Ensures.perform
  rintro _ _ rfl
  rfl

/-- Taking in data takes in all of them, or those up to the end of a page that cannot be
written. -/
theorem stage_accounted (p : Programming ω) (more : Bytes) {data : Bytes} {before : List Call}
    (h : p.Accounted data before) :
  Act.Ensures (fun _ calls => calls = before) (p.stage s more) fun r _ calls =>
    p.Stages more data before r calls
  := by
  induction p, more using stage_induction generalizing data before with
  | wait p more hwait =>
      rw [stage_wait hwait]
      apply Act.Ensures.pure
      rintro _ _ rfl
      exact .all [] rfl (h.wait hwait)
  | fill p more hne hfull ih =>
      rw [stage_full hne hfull]
      have hpage : (p.page ++ more.take (pageSize - p.page.length)).length = pageSize := by
        have := h.page_le
        rw [List.length_append, List.length_take]
        omega
      apply Act.Ensures.bind (writePage_calls p _ before)
      rintro (fault | ⟨⟩)
      · apply Act.Ensures.pure
        rintro _ _ rfl
        exact .halted fault [] rfl (List.take_prefix _ _) hpage (h.stuck hpage fault)
      · apply (ih (h.stored hpage)).imp_right
        intro r _ calls hstages
        have hall := hstages.after_stored
        rwa [List.take_append_drop] at hall

/-- Writing what waits leaves nothing waiting. -/
theorem flush_accounted (p : Programming ω) :
  Act.Ensures (fun _ calls => p.Accounted data calls) (p.flush s) fun r _ calls => r.2 = .ok () →
    r.1.slot = p.slot ∧ r.1.page = [] ∧ r.1.Counts data calls ∧ Insists p.slot calls
  := by
  unfold flush
  split
  case isTrue hempty =>
    exact .pure fun _ _ h _ => ⟨rfl, List.isEmpty_iff.mp hempty, h.toCounts, h.insists⟩
  case isFalse =>
    apply Act.Ensures.of_forall
    intro _ before h
    have hpage : p.page ++ [] = p.page := List.append_nil _
    have htried := h.tried (hpage ▸ h.page_le) (.ok ())
    rw [hpage] at htried
    apply Act.Ensures.bind ((writePage_calls p p.page before).imp_left fun _ _ hscene => hscene.2)
    rintro (fault | ⟨⟩)
    · exact .pure fun _ _ _ => by rintro ⟨⟩
    · apply Act.Ensures.pure
      rintro _ _ rfl _
      exact ⟨rfl, rfl, h.toCounts.stored, htried⟩

/-! ### What is on the medium -/

theorem writePage_matches (hs : s.Appends m) (p : Programming ω) (page : Bytes) :
  Act.Ensures (m.Matches p.writer p.slot) (p.writePage s page) fun outcome state calls =>
    outcome = .ok () → m.Matches p.writer p.slot state calls
  := by
  unfold writePage
  apply Act.Ensures.bind_report
  apply Act.Ensures.perform
  rintro site calls ⟨hwrites, hcontent⟩ hok
  obtain ⟨hstill, hafter⟩ := hs.write p.writer p.slot page site hwrites hok
  refine ⟨hstill, ?_⟩
  rw [hok, storedIn, if_pos rfl, List.flatten_concat, hafter, hcontent]

/-- As long as no page fails, what is in the slot is what has been stored by the record. -/
theorem stage_matches (hs : s.Appends m) (p : Programming ω) (more : Bytes) :
  Act.Ensures (m.Matches p.writer p.slot) (p.stage s more) fun r state calls =>
    r.2 = .ok () → m.Matches r.1.writer r.1.slot state calls
  := by
  induction p, more using stage_induction with
  | wait p more hwait =>
      rw [stage_wait hwait]
      exact .pure fun _ _ h _ => h
  | fill p more hne hfull ih =>
      rw [stage_full hne hfull]
      apply (writePage_matches hs p _).bind
      rintro (fault | ⟨⟩)
      · exact .pure fun _ _ _ => by rintro ⟨⟩
      · exact ih.imp_left fun _ _ h => h rfl

theorem flush_matches (hs : s.Appends m) (p : Programming ω) :
  Act.Ensures (m.Matches p.writer p.slot) (p.flush s) fun r state calls =>
    r.2 = .ok () → r.1.slot = p.slot ∧ m.Matches r.1.writer r.1.slot state calls
  := by
  unfold flush
  split
  · exact .pure fun _ _ h _ => ⟨rfl, h⟩
  · apply (writePage_matches hs p p.page).bind
    rintro (fault | ⟨⟩)
    · exact .pure fun _ _ _ => by rintro ⟨⟩
    · exact .pure fun _ _ h _ => ⟨rfl, h rfl⟩

end Programming

namespace Programmer

variable {programmer : Programmer ω} {deeds : List Deed} {data : Bytes}

/-- If an image is being written, what has been taken in of it is what has been stored and what
waits. -/
def Accounted (deeds : List Deed) (programmer : Programmer ω) : Assertion σ :=
  fun _ calls => ∀ p, programmer.session = some p →
    ∃ data, TakenIn p.slot deeds calls data ∧ p.Accounted data calls

/-- If an image is being written and no write has failed, the slot holds what has been stored. -/
def Intact (m : Medium σ ω) (deeds : List Deed) (programmer : Programmer ω) : Assertion σ :=
  fun state calls => ∀ p, programmer.session = some p → (taken? deeds).isSome = true →
    m.Matches p.writer p.slot state calls

theorem accounted_of_none {state : σ} {calls : List Call} (h : programmer.session = none) :
  programmer.Accounted deeds state calls
  := by
  intro p hp
  rw [h] at hp
  cases hp

theorem intact_of_none {state : σ} {calls : List Call} (h : programmer.session = none) :
  programmer.Intact m deeds state calls
  := by
  intro p hp
  rw [h] at hp
  cases hp

/-- An image can be begun only if none is being written, and what is then known of the new one is
known from its slot having been opened. -/
theorem begin_opens {P : Assertion σ} {Q : List Deed → Programmer ω → Assertion σ}
    (hopen : programmer.isOpen = true → ∀ fault state calls, P state calls →
      Q (.begin (.error fault) :: deeds) programmer state calls)
    (hclosed : ∀ outcome state calls, programmer.session = none →
      Q (.begin outcome :: deeds) programmer state calls)
    (hbegun : ∀ writer slot site calls, (s.openWriter slot site).1 = .ok writer →
      Q (.begin (.ok ()) :: deeds) { programmer with session := some { writer, slot } }
        (s.openWriter slot site).2.state (.openWriter slot (.ok ()) :: calls)) :
  Act.Ensures P (programmer.begin s) fun r => Q (.begin r.2 :: deeds) r.1
  := by
  unfold begin
  split
  case isTrue hisOpen =>
    apply Act.Ensures.bind_report
    exact .pure fun _ _ h => hopen hisOpen _ _ _ h
  case isFalse hnot =>
    have hnone : programmer.session = none := Option.not_isSome_iff_eq_none.mp hnot
    apply Act.Ensures.bind .any
    intro label
    split
    · exact .pure fun _ _ _ => hclosed _ _ _ hnone
    split
    · exact .pure fun _ _ _ => hclosed _ _ _ hnone
    case h_2 slot _ =>
      apply Act.Ensures.bind_perform fun opened state calls => ∀ writer, opened = .ok writer →
        Q (.begin (.ok ()) :: deeds) { programmer with session := some { writer, slot } } state
          calls
      · intro site calls _ writer hopened
        rw [hopened]
        apply hbegun writer slot site calls hopened
      intro opened
      split
      · exact .pure fun _ _ _ => hclosed _ _ _ hnone
      case h_2 writer =>
        apply Act.Ensures.bind_report
        exact .pure fun _ _ h => h writer rfl

/-- Of an image that has just been begun nothing has been taken in. -/
theorem begin_accounted :
  Act.Ensures (programmer.Accounted deeds) (programmer.begin s) fun r =>
    r.1.Accounted (.begin r.2 :: deeds)
  := by
  apply begin_opens (Q := fun deeds programmer => programmer.Accounted deeds)
  · intro _ fault _ _ h p hp
    obtain ⟨data, hdata, haccounted⟩ := h p hp
    exact ⟨data, hdata.refused fault, haccounted⟩
  · exact fun _ _ _ hnone => accounted_of_none hnone
  · rintro writer slot site calls _ _ ⟨rfl⟩
    have hstored : storedIn slot (.openWriter slot (.ok ()) :: calls) = [] := if_pos rfl
    have htries : triesIn slot (.openWriter slot (.ok ()) :: calls) = [] := if_pos rfl
    refine ⟨[], .begun, ⟨?_, ?_, ?_⟩, ⟨?_, ?_⟩, Nat.zero_le _⟩
    · rw [hstored]
      rfl
    · rw [hstored]
      rfl
    · rw [hstored]
      exact Sha256.Stream.empty_update_nil.symm
    · rw [Insists, htries]
      exact .nil
    · rw [htries]
      rintro _ ⟨⟩

theorem begin_intact (hs : s.Appends m) :
  Act.Ensures (programmer.Intact m deeds) (programmer.begin s) fun r =>
    r.1.Intact m (.begin r.2 :: deeds)
  := by
  apply begin_opens (Q := fun deeds programmer => programmer.Intact m deeds)
  · exact fun _ _ _ _ h => h
  · exact fun _ _ _ hnone => intact_of_none hnone
  · rintro writer slot site calls hopened _ ⟨rfl⟩ _
    obtain ⟨hwrites, hcontent⟩ := hs.openWriter slot site writer hopened
    refine ⟨hwrites, ?_⟩
    rw [hcontent, storedIn, if_pos rfl]
    rfl

/-- Of a write that fails the data up to the end of the page that cannot be written are taken in. -/
theorem write_accounted (more : Bytes) :
  Act.Ensures (programmer.Accounted deeds) (programmer.write s more) fun r =>
    r.1.Accounted (.write more r.2 :: deeds)
  := by
  unfold write
  split
  case h_1 hnone => exact .pure fun _ _ _ => accounted_of_none hnone
  case h_2 p hsession =>
    apply Act.Ensures.of_forall
    intro _ before h
    obtain ⟨data, hdata, haccounted⟩ := h p hsession
    apply Act.Ensures.bind
    · apply (Programming.stage_accounted p more haccounted).imp_left
      exact fun _ _ hscene => hscene.2
    rintro ⟨after, outcome⟩
    apply Act.Ensures.pure
    rintro _ _ hstages _ ⟨rfl⟩
    cases hstages with
    | all pages hslot hafter =>
        refine ⟨_, ?_, hafter⟩
        rw [hslot]
        exact hdata.written more pages
    | halted fault pages hslot hhead hfull hafter =>
        refine ⟨_, ?_, hafter⟩
        have hall := hafter.data_eq
        rw [hslot] at hall ⊢
        exact hdata.halted fault pages hhead hfull hall

theorem write_intact (hs : s.Appends m) (more : Bytes) :
  Act.Ensures (programmer.Intact m deeds) (programmer.write s more) fun r =>
    r.1.Intact m (.write more r.2 :: deeds)
  := by
  unfold write
  split
  case h_1 hnone => exact .pure fun _ _ _ => intact_of_none hnone
  case h_2 p hsession =>
    by_cases htaken : (taken? deeds).isSome = true
    · apply Act.Ensures.bind
        ((Programming.stage_matches hs p more).imp_left fun _ _ h => h p hsession htaken)
      rintro ⟨after, outcome⟩
      apply Act.Ensures.pure
      rintro _ _ h _ ⟨rfl⟩ hall
      cases outcome with
      | ok _ => exact h rfl
      | error _ => cases hall
    · apply Act.Ensures.map_any
      rintro ⟨after, outcome⟩ _ _ _ - hall
      cases outcome with
      | ok _ =>
          rw [taken?, Option.isSome_map] at hall
          exact absurd hall htaken
      | error _ => cases hall

/-- A commit that goes well has stored what has been taken in, and tells its slot, length and
digest. -/
theorem commit_accounted {p : Programming ω} (hsession : programmer.session = some p) :
  Act.Ensures (fun _ calls => p.Accounted data calls) (programmer.commit s) fun r _ calls =>
    ∀ done, r.2 = .ok done →
      (storedIn p.slot calls).flatten = data ∧ Insists p.slot calls
        ∧ done = ⟨p.slot, data.length, Sha256.hex data⟩
  := by
  let S : Programming ω → Assertion σ := fun after _ calls =>
    after.slot = p.slot ∧ after.page = [] ∧ after.Counts data calls ∧ Insists p.slot calls
  -- neither the check nor the selection stores anything
  have hcommit :=
    commit_installs (s := s) (R := S) (S := S) hsession (Programming.flush_accounted p) ?_ ?_
  · apply hcommit.imp_right
    rintro _ _ calls h done hdone
    obtain ⟨after, rfl, hslot, hpage, hcounts, hinsists⟩ := h done hdone
    have hdata : (storedIn after.slot calls).flatten = data := by
      rw [← hcounts.data_eq, hpage, List.append_nil]
    rw [← hslot] at hinsists ⊢
    refine ⟨hdata, hinsists, ?_⟩
    rw [Programming.installation, hcounts.cursor_eq, hcounts.digest_eq, hdata]
    rfl
  · rintro after _ _ _ ⟨hslot, hpage, hcounts, hinsists⟩
    exact ⟨hslot, hpage, ⟨hcounts.data_eq, hcounts.cursor_eq, hcounts.digest_eq⟩, hinsists⟩
  · rintro after _ _ _ ⟨hslot, hpage, hcounts, hinsists⟩
    exact ⟨hslot, hpage, ⟨hcounts.data_eq, hcounts.cursor_eq, hcounts.digest_eq⟩, hinsists⟩

/-- What is in the slot when a commit has gone well has been stored in it by the record. -/
theorem commit_matches (hs : s.Appends m) {p : Programming ω}
    (hsession : programmer.session = some p) :
  Act.Ensures (m.Matches p.writer p.slot) (programmer.commit s) fun r state calls =>
    ∀ done, r.2 = .ok done → m.content p.slot state = (storedIn p.slot calls).flatten
  := by
  let R : Programming ω → Assertion σ := fun after state calls =>
    after.slot = p.slot ∧ m.Matches after.writer after.slot state calls
  let S : Programming ω → Assertion σ := fun _ state calls =>
    m.content p.slot state = (storedIn p.slot calls).flatten
  have hcommit := commit_installs (R := R) (S := S) hsession (Programming.flush_matches hs p) ?_ ?_
  · apply hcommit.imp_right
    rintro _ _ _ h done hdone
    obtain ⟨after, -, hcontent⟩ := h done hdone
    exact hcontent
  · rintro after site calls _ ⟨hslot, hwrites, hcontent⟩
    rw [hslot] at hwrites hcontent
    exact (hs.finish after.writer p.slot site hwrites).trans hcontent
  · exact fun after site calls _ h => (hs.select p.slot after.slot site).trans h

/-- Without an image that is being written there is nothing to commit. -/
theorem session_of_commit {scene : Scene σ} {done : Installation}
    (h : (programmer.commit s scene).1.2 = .ok done) :
  ∃ p, programmer.session = some p
  := by
  unfold commit at h
  cases hsession : programmer.session with
  | none =>
      rw [hsession] at h
      cases h
  | some p => exact ⟨p, rfl⟩

end Programmer

/-! ### What is selected -/

/-- An act that is put together from operations that decide nothing selects no slot. -/
theorem Act.Composed.selects_nothing {α : Type} {act : Act σ α} (h : act.Composed Undeciding)
    (boot : String) (scene : Scene σ) :
  selected boot (act scene).2.calls = selected boot scene.calls
  := by
  have hkeeps := h.decides_nothing fun calls => selected boot calls = selected boot scene.calls
  rw [← selected_decisive]
  apply hkeeps.run scene (selected_decisive boot scene.calls)

/-- A commit that goes well has selected its slot, and one that fails has selected none. -/
theorem Programmer.commit_selects (s : Slots σ ω) (programmer : Programmer ω) (boot : String)
    (scene : Scene σ) :
  selected boot (programmer.commit s scene).2.calls
    = match (programmer.commit s scene).1.2 with
      | .ok done => done.slot
      | .error _ => selected boot scene.calls
  := by
  have hdecided := (programmer.commit_decides s (decisive scene.calls)).run scene rfl
  rw [← selected_decisive]
  cases hcommit : (programmer.commit s scene).1.2 with
  | ok done =>
      rw [hcommit] at hdecided
      rw [show decisive _ = _ from hdecided]
      rfl
  | error fault =>
      rw [hcommit] at hdecided
      rw [show decisive _ = _ from hdecided, selected_decisive]

/-! ### Any order of operations -/

namespace Programmed

variable {deeds : List Deed} {programmer : Programmer ω} {scene : Scene σ}

theorem accounted (h : Programmed s deeds programmer scene) :
  programmer.Accounted deeds scene.state scene.calls
  := by
  induction h with
  | start ring scene => exact Programmer.accounted_of_none rfl
  | begin _ ih => exact Programmer.begin_accounted.run _ ih
  | write data _ ih => exact (Programmer.write_accounted data).run _ ih
  | commit _ _ => exact Programmer.accounted_of_none (Programmer.commit_closes _ _)
  | abort _ _ => exact Programmer.accounted_of_none (Programmer.abort_closes _ _)

theorem intact (hs : s.Appends m) (h : Programmed s deeds programmer scene) :
  programmer.Intact m deeds scene.state scene.calls
  := by
  induction h with
  | start ring scene => exact Programmer.intact_of_none rfl
  | begin _ ih => exact (Programmer.begin_intact hs).run _ ih
  | write data _ ih => exact (Programmer.write_intact hs data).run _ ih
  | commit _ _ => exact Programmer.intact_of_none (Programmer.commit_closes _ _)
  | abort _ _ => exact Programmer.intact_of_none (Programmer.abort_closes _ _)

/-- A write ends at a page that cannot be written, with the data up to its end in it. -/
theorem write_stuck (h : Programmed s deeds programmer scene) {p : Programming ω}
    (hsession : programmer.session = some p) {head rest page : Bytes} (hne : head ++ rest ≠ [])
    (hpage : p.page ++ head = page) (hfull : page.length = pageSize) {fault : Fault}
    {after : Scene σ} (hwrite : p.writePage s page scene = (.error fault, after)) :
  Programmed s (.write (head ++ rest) (.error fault) :: deeds)
    { programmer with session := some { p with page } } after
  := by
  have hwritten := h.write (head ++ rest)
  rw [Programmer.write_full hsession hne hpage hfull, Act.bind_eq hwrite] at hwritten
  exact hwritten

/-- A device tells the length and the digest of the data that it has installed. -/
theorem reports_taken (h : Programmed s deeds programmer scene) {data : Bytes}
    (hdata : taken? deeds = some data) {done : Installation}
    (hcommit : (programmer.commit s scene).1.2 = .ok done) :
  done.size = data.length ∧ done.digest = Sha256.hex data
  := by
  obtain ⟨p, hsession⟩ := Programmer.session_of_commit hcommit
  obtain ⟨all, hall, haccounted⟩ := h.accounted p hsession
  obtain rfl := hall.eq_of_taken hdata
  obtain ⟨-, -, rfl⟩ :=
    (Programmer.commit_accounted hsession).run scene haccounted done hcommit
  exact ⟨rfl, rfl⟩

/-- Only a commit that goes well selects a slot, whatever has been done before and whichever writes
have failed, and it is that of its installation. What it has stored in the slot since the slot was
opened is what has been taken in since the image was begun: of a write that has failed the data up
to the end of the page that could not be written, and of any other all data. A page that could not
be written has been the next to be tried, until it was stored. If no write has failed, the slot
holds all data and nothing else. -/
theorem installs_taken (hs : s.Appends m) (h : Programmed s deeds programmer scene)
    (boot : String) :
  selected boot (programmer.begin s scene).2.calls = selected boot scene.calls
    ∧ (∀ data, selected boot (programmer.write s data scene).2.calls = selected boot scene.calls)
    ∧ selected boot (programmer.abort s scene).2.calls = selected boot scene.calls
    ∧ match (programmer.commit s scene).1.2 with
      | .error _ => selected boot (programmer.commit s scene).2.calls = selected boot scene.calls
      | .ok done => selected boot (programmer.commit s scene).2.calls = done.slot
        ∧ Insists done.slot (programmer.commit s scene).2.calls
        ∧ (∃ data, TakenIn done.slot deeds scene.calls data)
        ∧ ∀ data, TakenIn done.slot deeds scene.calls data →
          (storedIn done.slot (programmer.commit s scene).2.calls).flatten = data
            ∧ done.size = data.length ∧ done.digest = Sha256.hex data
            ∧ ∀ all, taken? deeds = some all →
              data = all ∧ m.content done.slot (programmer.commit s scene).2.state = all
  := by
  refine ⟨?_, ?_, ?_, ?_⟩
  · apply (Programmer.begin_composed s.prepares_undeciding programmer).selects_nothing
  · intro data
    apply (Programmer.write_composed s.prepares_undeciding programmer data).selects_nothing
  · apply (Programmer.abort_composed s.prepares_undeciding programmer).selects_nothing
  have hselects := programmer.commit_selects s boot scene
  split
  case h_1 fault hcommit =>
    rw [hcommit] at hselects
    exact hselects
  case h_2 done hcommit =>
    rw [hcommit] at hselects
    obtain ⟨p, hsession⟩ := Programmer.session_of_commit hcommit
    obtain ⟨data, hdata, haccounted⟩ := h.accounted p hsession
    obtain ⟨hstored, hinsists, rfl⟩ :=
      (Programmer.commit_accounted hsession).run scene haccounted done hcommit
    refine ⟨hselects, hinsists, ⟨data, hdata⟩, ?_⟩
    intro other hother
    obtain rfl := hdata.unique hother
    refine ⟨hstored, rfl, rfl, ?_⟩
    intro all hall
    have heq := hdata.eq_of_taken hall
    have hmatches := h.intact hs p hsession (Option.isSome_of_eq_some hall)
    have hcontent := (Programmer.commit_matches hs hsession).run scene hmatches _ hcommit
    exact ⟨heq, hcontent.trans (hstored.trans heq)⟩

end Programmed

namespace Bench.Rig

/-- A rig that cannot write the first page, and then all others. -/
def wornRig : Rig :=
  { sampleRig "factory" [] with disturbances := [("write", [some (.fail "worn")])] }

/-- This rig after an image has been begun and its first page could not be written. -/
def wornScene : Scene Rig :=
  (blank.writePage slotTable fullPage (Programmer.begin slotTable {} { state := wornRig }).2).2

/-- An image with a full page that could not be written. -/
def unwritten : Programming String :=
  { blank with page := fullPage }

/-- The programmer that writes this image. -/
def stuckPage : Programmer String where
  session := some unwritten

/-- What has been done with it. -/
def stuckDeeds : List Deed :=
  [.write pageAndByte (.error (.storageWrite "worn")), .begin (.ok ())]

theorem stuckPage_programmed :
  Programmed slotTable stuckDeeds stuckPage wornScene
  := by
  let begun : Scene Rig := (Programmer.begin slotTable {} { state := wornRig }).2
  have hbegun : Programmed slotTable [.begin (.ok ())] { session := some blank } begun :=
    (Programmed.start .twoSlots { state := wornRig }).begin
  have hwrite : blank.writePage slotTable fullPage begun
      = (.error (.storageWrite "worn"), wornScene) := rfl
  exact hbegun.write_stuck rfl (by simp) rfl List.length_replicate hwrite

/-- This rig after the page could be written when it was tried again. -/
def mendedScene : Scene Rig :=
  (unwritten.writePage slotTable fullPage wornScene).2

/-- The programmer that has tried it again, with another byte that waits. -/
def resumed : Programmer String where
  session := some { unwritten.flushed fullPage with page := [66] }

theorem resumed_programmed :
  Programmed slotTable (.write [66] (.ok ()) :: stuckDeeds) resumed mendedScene
  := by
  have hpage : unwritten.page ++ [] = fullPage := List.append_nil _
  have hwrite : unwritten.writePage slotTable fullPage wornScene = (.ok (), mendedScene) := rfl
  exact stuckPage_programmed.write_page rfl (by simp) hpage List.length_replicate (by decide) hwrite

end Bench.Rig

open Bench.Rig in
/-- An image is installed that has lost a byte: the page before it could be written when it was
tried again with the next byte, and this byte comes after the page. -/
theorem Programmed.installs_taken_resumed :
  ∃ (deeds : List Deed) (done : Installation), slotTable.Appends memory
    ∧ Programmed slotTable deeds resumed mendedScene
    ∧ (resumed.commit slotTable mendedScene).1.2 = .ok done
    ∧ selected "factory" (resumed.commit slotTable mendedScene).2.calls = done.slot
    ∧ Insists done.slot (resumed.commit slotTable mendedScene).2.calls
    ∧ TakenIn done.slot deeds mendedScene.calls (fullPage ++ [66])
    ∧ (storedIn done.slot (resumed.commit slotTable mendedScene).2.calls).flatten
      = fullPage ++ [66]
    ∧ done.size = pageSize + 1
  := by
  have hok : (resumed.commit slotTable mendedScene).1.2.isOk = true
      ∧ selected "factory" (resumed.commit slotTable mendedScene).2.calls = "ota_0" := by
    decide +kernel
  have happends : slotTable.Appends memory := slotTable_stores.appends
  obtain ⟨-, -, -, hinstalls⟩ := Programmed.installs_taken happends resumed_programmed "factory"
  cases hcommit : (resumed.commit slotTable mendedScene).1.2 with
  | error _ =>
      rw [hcommit] at hok
      cases hok.1
  | ok done =>
      rw [hcommit] at hinstalls
      obtain ⟨hselected, hinsists, -, hall⟩ := hinstalls
      have htaken : TakenIn done.slot (.write [66] (.ok ()) :: stuckDeeds) mendedScene.calls
          (fullPage ++ [66]) := by
        rw [← hselected, hok.2]
        apply TakenIn.written [66] [fullPage]
        exact .halted _ [] .begun (List.prefix_append _ _) List.length_replicate rfl
      obtain ⟨hstored, hsize, -⟩ := hall _ htaken
      refine ⟨_, done, happends, resumed_programmed, rfl, hselected, hinsists, htaken, hstored, ?_⟩
      rw [hsize, List.length_append, fullPage, List.length_replicate]
      rfl

open Bench.Rig in
/-- An image of a page and one byte is installed without the byte when the first page could not be
written at once: the write failed, and the commit goes well and selects the slot. -/
theorem Programmed.installs_torn :
  ∃ (scene : Scene Bench.Rig) (done : Installation),
    Programmed slotTable [.write pageAndByte (.error (.storageWrite "worn")), .begin (.ok ())]
      stuckPage scene
      ∧ (stuckPage.commit slotTable scene).1.2 = .ok done
      ∧ (storedIn done.slot (stuckPage.commit slotTable scene).2.calls).flatten = fullPage
      ∧ fullPage ≠ pageAndByte
      ∧ selected "factory" scene.calls = "factory"
      ∧ selected "factory" (stuckPage.commit slotTable scene).2.calls = "ota_0"
  := by
  have hok : (stuckPage.commit slotTable wornScene).1.2.isOk = true := by decide +kernel
  cases hcommit : (stuckPage.commit slotTable wornScene).1.2 with
  | error _ =>
      rw [hcommit] at hok
      cases hok
  | ok done =>
      have hsession : stuckPage.session = some unwritten := rfl
      obtain ⟨data, -, haccounted⟩ := stuckPage_programmed.accounted _ hsession
      obtain ⟨hstored, -, rfl⟩ :=
        (Programmer.commit_accounted hsession).run wornScene haccounted done hcommit
      have hselects := stuckPage.commit_selects slotTable "factory" wornScene
      rw [hcommit] at hselects
      refine ⟨wornScene, _, stuckPage_programmed, hcommit, ?_, ?_, rfl, hselects⟩
      · rw [hstored, ← haccounted.data_eq]
        rfl
      · simp [pageAndByte]

end FirmwareUpdate
