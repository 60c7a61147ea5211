import FirmwareUpdate.Proofs.Bench.Download
import FirmwareUpdate.Proofs.Http.Asking
import FirmwareUpdate.Proofs.Slot.Custody
import FirmwareUpdate.Proofs.Slot.Intake

/-!
# An image grows page by page

What a programmer has written to a slot is an image that only grows, by whole pages; the rest of
what has been taken in waits in the page of the programming. At any time the cursor and the digest
are those of the bytes in the slot, also after pages that could not be written: such a page stays
full, and the next data have it written first. A commit writes the rest, so that the slot then holds
what has been taken in and nothing else.

The main statement is `Programmed.refines`.
-/

namespace FirmwareUpdate

variable {σ ω : Type}

/-! ### Slots that store what is written -/

/-- Where slots have their bytes: the content of a slot, and which writer writes to which slot. -/
structure Medium (σ ω : Type) where
  content : String → σ → Bytes
  writesTo : ω → String → σ → Prop

/-- The slots keep their bytes on a medium. A slot is empty when it has been opened, and a writer
adds to its slot what it writes, unless it fails; then nothing is stored. Neither the check of an
image nor a selection changes what is in a slot. -/
structure Slots.Stores (s : Slots σ ω) (m : Medium σ ω) : Prop where
  openWriter : ∀ slot site writer, (s.openWriter slot site).1 = .ok writer →
    m.writesTo writer slot (s.openWriter slot site).2.state
      ∧ m.content slot (s.openWriter slot site).2.state = []
  write : ∀ writer slot page site, m.writesTo writer slot site.state →
    m.writesTo writer slot (s.write writer page site).2.state
      ∧ m.content slot (s.write writer page site).2.state
        = match (s.write writer page site).1 with
          | .ok () => m.content slot site.state ++ page
          | .error _ => m.content slot site.state
  finish : ∀ writer slot site, m.writesTo writer slot site.state →
    m.content slot (s.finish writer site).2.state = m.content slot site.state
  select : ∀ slot selected site,
    m.content slot (s.select selected site).2.state = m.content slot site.state

/-- The pages that have been stored in a slot since it was opened, the earliest first. -/
def storedIn (slot : String) : List Call → List Bytes
  | [] => []
  | .openWriter label (.ok ()) :: earlier => if label = slot then [] else storedIn slot earlier
  | .write label page (.ok ()) :: earlier =>
    if label = slot then storedIn slot earlier ++ [page] else storedIn slot earlier
  | _ :: earlier => storedIn slot earlier

/-- The pages together with what waits, if anything does. -/
def withRest (pages : List Bytes) (page : Bytes) : List Bytes :=
  if page = [] then pages else pages ++ [page]

theorem flatten_withRest (pages : List Bytes) (page : Bytes) :
  (withRest pages page).flatten = pages.flatten ++ page
  := by
  unfold withRest
  split
  case isTrue hempty => rw [hempty, List.append_nil]
  case isFalse => exact List.flatten_concat

/-- The lengths of the pages into which an image of this length is divided. -/
def pageLengths (length : Nat) : List Nat :=
  List.replicate (length / pageSize) pageSize
    ++ if length % pageSize = 0 then [] else [length % pageSize]

/-- Full pages, and a last one that is not full, are what an image is divided into. -/
theorem lengths_withRest {pages : List Bytes} {page : Bytes}
    (hfull : ∀ page ∈ pages, page.length = pageSize) (hpage : page.length < pageSize) :
  (withRest pages page).map List.length = pageLengths (pages.flatten ++ page).length
  := by
  have hmap : pages.map List.length = List.replicate pages.length pageSize :=
    (List.map_congr_left hfull).trans List.map_const
  have hlength : (pages.flatten ++ page).length = pages.length * pageSize + page.length := by
    rw [List.length_append, List.length_flatten, hmap, List.sum_replicate_nat]
  obtain ⟨hquotient, hrest⟩ : (pages.flatten ++ page).length / pageSize = pages.length
      ∧ (pages.flatten ++ page).length % pageSize = page.length := by
    apply (Nat.div_mod_unique (by decide)).mpr
    rw [hlength, Nat.add_comm, Nat.mul_comm]
    exact ⟨rfl, hpage⟩
  rw [pageLengths, hquotient, hrest, ← hmap]
  cases page with
  | nil => simp [withRest]
  | cons b page => simp [withRest]

variable {s : Slots σ ω} {m : Medium σ ω}

namespace Programming

variable {p : Programming ω} {pages : List Bytes}

/-- The bytes in the slot are those of the pages that have been stored, and the cursor and the
digest are theirs. -/
structure Stored (m : Medium σ ω) (p : Programming ω) (pages : List Bytes) (state : σ)
    (calls : List Call) : Prop where
  writes : m.writesTo p.writer p.slot state
  pages_eq : storedIn p.slot calls = pages
  content_eq : m.content p.slot state = pages.flatten
  cursor_eq : p.cursor = (m.content p.slot state).length
  digest_eq : p.digest = Sha256.Stream.empty.update (m.content p.slot state)

/-- All pages that have been stored are full, and what waits is not more than a page. -/
structure Paged (m : Medium σ ω) (p : Programming ω) (pages : List Bytes) (state : σ)
    (calls : List Call) : Prop extends p.Stored m pages state calls where
  full : ∀ page ∈ pages, page.length = pageSize
  page_le : p.page.length ≤ pageSize

/-- What waits has nothing to do with what is stored. -/
theorem Stored.withPage {state : σ} {calls : List Call} (h : p.Stored m pages state calls)
    (page : Bytes) :
  Stored m { p with page } pages state calls
  := ⟨h.writes, h.pages_eq, h.content_eq, h.cursor_eq, h.digest_eq⟩

/-- A page is stored, or nothing is. -/
theorem writePage_stored (hs : s.Stores m) (page : Bytes) :
  Act.Ensures (p.Stored m pages) (p.writePage s page) fun outcome => match outcome with
    | .ok () => (p.flushed page).Stored m (pages ++ [page])
    | .error _ => p.Stored m pages
  := by
  unfold writePage
  apply Act.Ensures.bind_report
  apply Act.Ensures.perform
  intro site calls h
  obtain ⟨hwrites, hcontent⟩ := hs.write p.writer p.slot page site h.writes
  revert hcontent
  cases (s.write p.writer page site).1 with
  | error fault =>
      intro hcontent
      constructor
      · exact hwrites
      · exact h.pages_eq
      · exact hcontent.trans h.content_eq
      · rw [hcontent]
        exact h.cursor_eq
      · rw [hcontent]
        exact h.digest_eq
  | ok _ =>
      intro hcontent
      have hpages : storedIn p.slot (.write p.slot page (.ok ()) :: calls)
          = storedIn p.slot calls ++ [page] := if_pos rfl
      constructor
      · exact hwrites
      · exact hpages.trans (congrArg (· ++ [page]) h.pages_eq)
      · rw [List.flatten_concat, ← h.content_eq]
        exact hcontent
      · dsimp only [flushed]
        rw [hcontent, List.length_append, h.cursor_eq]
      · dsimp only [flushed]
        rw [hcontent, h.digest_eq, Sha256.Stream.update_update]

/-- Storing a full page leaves an empty one. -/
theorem Stored.paged {page : Bytes} {state : σ} {calls : List Call}
    (h : (p.flushed page).Stored m (pages ++ [page]) state calls)
    (hfull : ∀ page ∈ pages, page.length = pageSize) (hpage : page.length = pageSize) :
  (p.flushed page).Paged m (pages ++ [page]) state calls
  := by
  refine ⟨h, ?_, Nat.zero_le _⟩
  intro stored hstored
  obtain hstored | hstored := List.mem_append.mp hstored
  · apply hfull stored hstored
  · rw [List.mem_singleton.mp hstored, hpage]

/-- Taking in data adds full pages to the slot, and the rest waits, unless a page cannot be stored.
When all goes well, what waits is less than a page. -/
theorem stage_paged (hs : s.Stores m) (p : Programming ω) (more : Bytes) (pages : List Bytes) :
  Act.Ensures (p.Paged m pages) (p.stage s more) fun r state calls =>
    ∃ after, r.1.Paged m after state calls
      ∧ (r.2 = .ok () → after.flatten ++ r.1.page = pages.flatten ++ p.page ++ more
        ∧ (p.page.length < pageSize → r.1.page.length < pageSize))
  := by
  induction p, more using stage_induction generalizing pages with
  | wait p more hwait =>
      rw [stage_wait hwait]
      apply Act.Ensures.pure
      intro state calls h
      have hle := h.page_le
      have hlength : (p.page ++ more).length ≤ pageSize
          ∧ (p.page.length < pageSize → (p.page ++ more).length < pageSize) := by
        obtain rfl | hshort := hwait
        · rw [List.append_nil]
          exact ⟨hle, id⟩
        · rw [List.length_append]
          omega
      exact ⟨pages, ⟨h.withPage _, h.full, hlength.1⟩,
        fun _ => ⟨(List.append_assoc _ _ _).symm, hlength.2⟩⟩
  | fill p more hne hfull ih =>
      rw [stage_full hne hfull]
      apply Act.Ensures.of_forall
      intro state calls h
      -- a page that could not be written is full already, and there is no room for more
      have hpage : (p.page ++ more.take (pageSize - p.page.length)).length = pageSize := by
        have hle := h.page_le
        rw [List.length_append, List.length_take]
        omega
      apply Act.Ensures.bind
      · apply (writePage_stored hs _).imp_left
        rintro _ _ ⟨rfl, rfl⟩
        exact h.toStored
      rintro (fault | ⟨⟩)
      · apply Act.Ensures.pure
        intro _ _ hstored
        exact ⟨pages, ⟨hstored.withPage _, h.full, Nat.le_of_eq hpage⟩, by rintro ⟨⟩⟩
      · apply (ih (pages ++ [_])).imp
        · exact fun _ _ hstored => hstored.paged h.full hpage
        · rintro r _ _ ⟨after, hpaged, hall⟩
          refine ⟨after, hpaged, fun hok => ?_⟩
          obtain ⟨heq, hlt⟩ := hall hok
          refine ⟨?_, fun _ => hlt (show 0 < pageSize by decide)⟩
          rw [heq, List.flatten_concat]
          dsimp only [flushed]
          simp only [List.append_nil, List.append_assoc, List.take_append_drop]

/-- Taking in data takes no more calls than there are pages in them and in what waits, also if what
waits is a full page. -/
theorem stage_calls (p : Programming ω) (more : Bytes) (hpage : p.page.length ≤ pageSize)
    (base : List Call) :
  Act.Ensures (fun _ calls => calls = base) (p.stage s more) fun _ =>
    Since base fun made => made.length * pageSize ≤ p.page.length + more.length
  := by
  induction p, more using stage_induction generalizing base with
  | wait p more hwait =>
      rw [stage_wait hwait]
      exact .pure fun _ _ h => ⟨[], h, by simp⟩
  | fill p more hne hfull ih =>
      -- the data need not get shorter, but what waits and the data together do, by a page
      have hlength : pageSize ≤ p.page.length + more.length := by omega
      rw [stage_full hne hfull]
      dsimp only
      rw [writePage, bind_assoc]
      apply Act.Ensures.bind_report
      apply Act.Ensures.bind_perform fun outcome _ calls =>
        calls = .write p.slot (p.page ++ more.take (pageSize - p.page.length)) outcome :: base
      · rintro _ _ rfl
        rfl
      rintro (fault | ⟨⟩)
      · apply Act.Ensures.pure
        rintro _ _ rfl
        exact ⟨[_], rfl, by simpa using hlength⟩
      · apply (ih (Nat.zero_le _) _).imp_right
        rintro _ _ _ ⟨made, rfl, hmade⟩
        refine ⟨made ++ [.write p.slot _ (.ok ())], List.append_cons _ _ _, ?_⟩
        simp only [flushed, List.length_nil, List.length_drop] at hmade
        dsimp only
        rw [List.length_append, List.length_singleton, Nat.add_mul]
        omega

/-- Writing what waits leaves nothing waiting. -/
theorem flush_stored (hs : s.Stores m) (p : Programming ω) :
  Act.Ensures (p.Stored m pages) (p.flush s) fun r state calls => r.2 = .ok () →
    r.1.slot = p.slot
      ∧ r.1.Stored m (withRest pages p.page) state calls
  := by
  unfold flush
  split
  case isTrue hempty =>
    rw [withRest, if_pos (List.isEmpty_iff.mp hempty)]
    exact .pure fun _ _ h _ => ⟨rfl, h⟩
  case isFalse hne =>
    rw [withRest, if_neg (mt List.isEmpty_iff.mpr hne)]
    apply (writePage_stored hs p.page).bind
    rintro (fault | ⟨⟩)
    · exact .pure fun _ _ _ => by rintro ⟨⟩
    · exact .pure fun _ _ h _ => ⟨rfl, h⟩

end Programming

/-! ### What is done with a programmer -/

/-- What has been done with a programmer, with the outcome. -/
inductive Deed
  | begin (outcome : Outcome)
  | write (data : Bytes) (outcome : Outcome)
  | commit (outcome : Except Fault Installation)
  | abort (outcome : Outcome)

/-- The data that have been taken in since an image was begun, if all of them have been, by what has
been done, the latest first. -/
def taken? : List Deed → Option Bytes
  | [] => none
  | .begin (.ok ()) :: _ => some []
  | .begin (.error _) :: earlier => taken? earlier
  | .write data (.ok ()) :: earlier => (taken? earlier).map (· ++ data)
  | .write _ (.error _) :: _ => none
  | .commit _ :: _ | .abort _ :: _ => none

/-- The programmers and the scenes that can be come to from one that writes nothing, with what has
been done, the latest first. Images are begun, written to, committed and given up in any order. -/
inductive Programmed (s : Slots σ ω) : List Deed → Programmer ω → Scene σ → Prop
  | start (ring : SlotRing) (scene : Scene σ) : Programmed s [] { ring } scene
  | begin {deeds : List Deed} {programmer : Programmer ω} {scene : Scene σ} :
      Programmed s deeds programmer scene →
      Programmed s (.begin (programmer.begin s scene).1.2 :: deeds) (programmer.begin s scene).1.1
        (programmer.begin s scene).2
  | write {deeds : List Deed} {programmer : Programmer ω} {scene : Scene σ} (data : Bytes) :
      Programmed s deeds programmer scene →
      Programmed s (.write data (programmer.write s data scene).1.2 :: deeds)
        (programmer.write s data scene).1.1 (programmer.write s data scene).2
  | commit {deeds : List Deed} {programmer : Programmer ω} {scene : Scene σ} :
      Programmed s deeds programmer scene →
      Programmed s (.commit (programmer.commit s scene).1.2 :: deeds)
        (programmer.commit s scene).1.1 (programmer.commit s scene).2
  | abort {deeds : List Deed} {programmer : Programmer ω} {scene : Scene σ} :
      Programmed s deeds programmer scene →
      Programmed s (.abort (programmer.abort s scene).1.2 :: deeds) (programmer.abort s scene).1.1
        (programmer.abort s scene).2

namespace Programmer

variable {programmer : Programmer ω} {known : Option Bytes} {deeds : List Deed}

/-- If an image is being written, it is stored page by page; if the data that have been taken in are
known, they are what is stored and what waits. -/
def Paged (m : Medium σ ω) (known : Option Bytes) (programmer : Programmer ω) : Assertion σ :=
  fun state calls => ∀ p, programmer.session = some p →
    ∃ pages, p.Paged m pages state calls
      ∧ ∀ data, known = some data → pages.flatten ++ p.page = data ∧ p.page.length < pageSize

theorem paged_of_none {state : σ} {calls : List Call} (h : programmer.session = none) :
  programmer.Paged m known state calls
  := by
  intro p hp
  rw [h] at hp
  cases hp

/-- An image that has just been begun is empty. -/
theorem begin_paged (hs : s.Stores m) :
  Act.Ensures (programmer.Paged m (taken? deeds)) (programmer.begin s) fun r =>
    r.1.Paged m (taken? (.begin r.2 :: deeds))
  := by
  unfold begin
  split
  case isTrue =>
    apply Act.Ensures.bind_report
    exact .pure fun _ _ h => h
  case isFalse hclosed =>
    have hnone : programmer.session = none := Option.not_isSome_iff_eq_none.mp hclosed
    apply Act.Ensures.bind .any
    intro label
    split
    · exact .pure fun _ _ _ => paged_of_none hnone
    split
    · exact .pure fun _ _ _ => paged_of_none hnone
    case h_2 slot _ =>
      apply Act.Ensures.bind_perform fun opened state calls => ∀ writer, opened = .ok writer →
        Programming.Paged m { writer, slot } [] state calls
      · intro site calls _ writer hopened
        obtain ⟨hwrites, hcontent⟩ := hs.openWriter slot site writer hopened
        rw [hopened]
        refine ⟨⟨hwrites, if_pos rfl, hcontent, ?_, ?_⟩, by simp, Nat.zero_le _⟩
        · rw [hcontent]
          rfl
        · rw [hcontent, Sha256.Stream.empty_update_nil]
      intro opened
      split
      · exact .pure fun _ _ _ => paged_of_none hnone
      case h_2 writer =>
        apply Act.Ensures.bind_report
        apply Act.Ensures.pure
        rintro state calls hopened _ ⟨rfl⟩
        refine ⟨[], hopened writer rfl, ?_⟩
        rintro _ ⟨rfl⟩
        exact ⟨rfl, show 0 < pageSize by decide⟩

/-- Data that have been taken in are added to what was taken in before. -/
theorem write_paged (hs : s.Stores m) (data : Bytes) :
  Act.Ensures (programmer.Paged m (taken? deeds)) (programmer.write s data) fun r =>
    r.1.Paged m (taken? (.write data r.2 :: deeds))
  := by
  unfold write
  split
  case h_1 hnone => exact .pure fun _ _ _ => paged_of_none hnone
  case h_2 p hsession =>
    apply Act.Ensures.of_forall
    intro state calls h
    obtain ⟨pages, hpaged, hknown⟩ := h p hsession
    apply Act.Ensures.bind
    · apply (Programming.stage_paged hs p data pages).imp_left
      rintro _ _ ⟨rfl, rfl⟩
      exact hpaged
    rintro ⟨after, outcome⟩
    apply Act.Ensures.pure
    rintro _ _ ⟨stored, hstored, hall⟩ _ ⟨rfl⟩
    refine ⟨stored, hstored, ?_⟩
    intro all htaken
    cases outcome with
    | error _ => cases htaken
    | ok _ =>
        obtain ⟨earlier, hearlier, rfl⟩ := Option.map_eq_some_iff.mp htaken
        obtain ⟨hdata, hpage⟩ := hknown earlier hearlier
        obtain ⟨heq, hlt⟩ := hall rfl
        exact ⟨heq.trans (congrArg (· ++ data) hdata), hlt hpage⟩

/-- A custody of which nothing is known. -/
theorem custody_any (s : Slots σ ω) :
  s.Custody fun _ _ _ => True
  where
  bootLabel := .any
  openWriter _ := Act.Ensures.any.imp_right fun opened _ _ _ => by cases opened <;> trivial
  write _ _ _ := .any
  finish _ _ := Act.Ensures.any.imp_right fun outcome _ _ _ => by cases outcome <;> trivial
  discard _ _ := .any
  select _ := .any

/-- Neither a commit nor giving up leaves an image that is being written. -/
theorem commit_closes (programmer : Programmer ω) (scene : Scene σ) :
  (programmer.commit s scene).1.1.session = none
  := ((commit_custody (custody_any s)).run scene trivial).1

theorem abort_closes (programmer : Programmer ω) (scene : Scene σ) :
  (programmer.abort s scene).1.1.session = none
  := ((abort_custody (custody_any s)).run scene trivial).1

/-- Data that do not fill the page wait in it. -/
theorem write_short {p : Programming ω} (hsession : programmer.session = some p) {data : Bytes}
    (hshort : data.length < pageSize - p.page.length) :
  programmer.write s data
    = pure ({ programmer with session := some { p with page := p.page ++ data } }, .ok ())
  := by
  unfold write
  rw [hsession]
  dsimp only
  rw [Programming.stage_wait (.inr hshort), pure_bind]

/-- Data that begin with what fills the page have it written, and the rest of them is written
then. -/
theorem write_full {p : Programming ω} (hsession : programmer.session = some p)
    {head rest page : Bytes} (hne : head ++ rest ≠ []) (hpage : p.page ++ head = page)
    (hfull : page.length = pageSize) :
  programmer.write s (head ++ rest) = (do
    match ← p.writePage s page with
    | .error fault =>
      return ({ programmer with session := some { p with page } }, .error fault)
    | .ok () => write s { programmer with session := some (p.flushed page) } rest)
  := by
  subst hpage
  have hroom : head.length = pageSize - p.page.length := by
    rw [← hfull, List.length_append, Nat.add_sub_cancel_left]
  have hle : pageSize - p.page.length ≤ (head ++ rest).length := by
    rw [← hroom, List.length_append]
    apply Nat.le_add_right
  unfold write
  rw [hsession]
  dsimp only
  rw [Programming.stage_full hne hle, List.take_left' hroom, List.drop_left' hroom]
  dsimp only
  rw [bind_assoc]
  congr 1
  funext outcome
  cases outcome with
  | error _ => rfl
  | ok _ => rfl

/-- Data are taken in with no more calls than there are pages in them and in what waits. -/
theorem write_calls {p : Programming ω} (hsession : programmer.session = some p)
    (hpage : p.page.length ≤ pageSize) (data : Bytes) (base : List Call) :
  Act.Ensures (fun _ calls => calls = base) (programmer.write s data) fun _ =>
    Since base fun made => made.length ≤ (p.page.length + data.length) / pageSize
  := by
  unfold write
  rw [hsession]
  apply Act.Ensures.map
  apply (Programming.stage_calls p data hpage base).imp_right
  rintro _ _ _ ⟨made, rfl, hmade⟩
  exact ⟨made, rfl, (Nat.le_div_iff_mul_le (by decide)).mpr hmade⟩

/-- A commit that goes well has written what waits; what is known then of the image stays known
when it is checked and its slot is selected. -/
theorem commit_installs {p : Programming ω} {P : Assertion σ} {R S : Programming ω → Assertion σ}
    (hsession : programmer.session = some p)
    (hflush : Act.Ensures P (p.flush s) fun r state calls => r.2 = .ok () → R r.1 state calls)
    (hfinish : ∀ after site calls outcome, R after site.state calls →
      S after (s.finish after.writer site).2.state (.finish after.slot outcome :: calls))
    (hselect : ∀ after site calls outcome, S after site.state calls →
      S after (s.select after.slot site).2.state (.select after.slot outcome :: calls)) :
  Act.Ensures P (programmer.commit s) fun r state calls =>
    ∀ done, r.2 = .ok done → ∃ after, done = after.installation ∧ S after state calls
  := by
  unfold commit
  rw [hsession]
  apply hflush.bind
  rintro ⟨after, fault | ⟨⟩⟩
  · apply Act.Ensures.bind_report
    apply Act.Ensures.bind .any
    intro _
    exact .pure fun _ _ _ => by rintro _ ⟨⟩
  apply Act.Ensures.bind_perform fun _ => S after
  · exact fun site calls h => hfinish after site calls _ (h rfl)
  rintro (fault | ⟨⟩)
  · apply Act.Ensures.bind_report
    exact .pure fun _ _ _ => by rintro _ ⟨⟩
  apply Act.Ensures.bind_perform fun _ => S after
  · exact fun site calls h => hselect after site calls _ h
  rintro (fault | ⟨⟩)
  · apply Act.Ensures.bind_report
    exact .pure fun _ _ _ => by rintro _ ⟨⟩
  apply Act.Ensures.bind_report
  apply Act.Ensures.pure
  rintro _ _ h _ ⟨rfl⟩
  exact ⟨after, rfl, h⟩

/-- A commit stores what waits, and the slot then holds the image. -/
theorem commit_stores (hs : s.Stores m) {p : Programming ω} {pages : List Bytes}
    (hsession : programmer.session = some p) :
  Act.Ensures (p.Stored m pages) (programmer.commit s) fun r state calls =>
    ∀ done, r.2 = .ok done →
      storedIn p.slot calls = withRest pages p.page
        ∧ m.content p.slot state = (withRest pages p.page).flatten
        ∧ done = ⟨p.slot, (withRest pages p.page).flatten.length,
          Sha256.hex (withRest pages p.page).flatten⟩
  := by
  have hflush : Act.Ensures (p.Stored m pages) (p.flush s) _ := Programming.flush_stored hs p
  generalize withRest pages p.page = all at hflush ⊢
  let R : Programming ω → Assertion σ := fun after state calls =>
    after.slot = p.slot ∧ after.Stored m all state calls
  let S : Programming ω → Assertion σ := fun after state calls =>
    after.installation = ⟨p.slot, all.flatten.length, Sha256.hex all.flatten⟩ ∧ after.slot = p.slot
      ∧ storedIn p.slot calls = all ∧ m.content p.slot state = all.flatten
  have hcommit := commit_installs (R := R) (S := S) hsession hflush ?_ ?_
  · apply hcommit.imp_right
    rintro _ _ _ h done hdone
    obtain ⟨after, rfl, hinstallation, -, hpages, hcontent⟩ := h done hdone
    exact ⟨hpages, hcontent, hinstallation⟩
  · rintro after site calls _ ⟨hslot, hstored⟩
    have hcontent := hstored.content_eq
    refine ⟨?_, hslot, ?_, ?_⟩
    · rw [Programming.installation, hstored.cursor_eq, hstored.digest_eq, hcontent, hslot]
      rfl
    · exact hslot ▸ hstored.pages_eq
    · rw [← hslot, hs.finish after.writer after.slot site hstored.writes, hcontent]
  · rintro after site calls _ ⟨hinstallation, hslot, hpages, hcontent⟩
    exact ⟨hinstallation, hslot, hpages, (hs.select p.slot after.slot site).trans hcontent⟩

end Programmer

variable {deeds : List Deed} {programmer : Programmer ω} {scene : Scene σ}

theorem Programmed.paged (hs : s.Stores m) (h : Programmed s deeds programmer scene) :
  programmer.Paged m (taken? deeds) scene.state scene.calls
  := by
  induction h with
  | start ring scene => exact Programmer.paged_of_none rfl
  | begin _ ih => exact (Programmer.begin_paged hs).run _ ih
  | write data _ ih => exact (Programmer.write_paged hs data).run _ ih
  | commit _ _ => exact Programmer.paged_of_none (Programmer.commit_closes _ _)
  | abort _ _ => exact Programmer.paged_of_none (Programmer.abort_closes _ _)

/-- Data that begin with what fills the page are taken in when the page could be written. -/
theorem Programmed.write_page (h : Programmed s deeds programmer scene) {p : Programming ω}
    (hsession : programmer.session = some p) {head rest page : Bytes} (hne : head ++ rest ≠ [])
    (hpage : p.page ++ head = page) (hfull : page.length = pageSize)
    (hrest : rest.length < pageSize) {after : Scene σ}
    (hwrite : p.writePage s page scene = (.ok (), after)) :
  Programmed s (.write (head ++ rest) (.ok ()) :: deeds)
    { programmer with session := some { p.flushed page with page := rest } } after
  := by
  have hwritten := h.write (head ++ rest)
  rw [Programmer.write_full hsession hne hpage hfull, Act.bind_eq hwrite] at hwritten
  dsimp only at hwritten
  rw [Programmer.write_short rfl hrest] at hwritten
  exact hwritten

/-- An image that is being written is in its slot page by page, whatever has been done before and
whichever pages could not be written: all pages in the slot are full, the cursor and the digest are
those of the bytes in the slot, and what waits is not more than a page. More data are taken in with
no more calls than there are pages in them and in what waits. If all data have been taken in, a
commit that goes well leaves them in the slot and nothing else, in full pages and a last one for the
rest, and it tells their slot, length and digest. -/
theorem Programmed.refines (hs : s.Stores m) (h : Programmed s deeds programmer scene)
    {p : Programming ω} (hsession : programmer.session = some p) :
  (∃ pages, p.Paged m pages scene.state scene.calls)
    ∧ (∀ data, ∃ made, (programmer.write s data scene).2.calls = made ++ scene.calls
      ∧ made.length ≤ (p.page.length + data.length) / pageSize)
    ∧ ∀ data, taken? deeds = some data → ∀ done, (programmer.commit s scene).1.2 = .ok done →
      m.content p.slot (programmer.commit s scene).2.state = data
        ∧ (storedIn p.slot (programmer.commit s scene).2.calls).flatten = data
        ∧ (storedIn p.slot (programmer.commit s scene).2.calls).map List.length
          = pageLengths data.length
        ∧ done = ⟨p.slot, data.length, Sha256.hex data⟩
  := by
  obtain ⟨pages, hpaged, hknown⟩ := h.paged hs p hsession
  refine ⟨⟨pages, hpaged⟩, ?_, ?_⟩
  · intro data
    exact (Programmer.write_calls hsession hpaged.page_le data scene.calls).run scene rfl
  · intro data hdata done hdone
    obtain ⟨rfl, hpage⟩ := hknown data hdata
    obtain ⟨hstored, hcontent, hreport⟩ :=
      (Programmer.commit_stores hs hsession).run scene hpaged.toStored done hdone
    rw [hstored, ← flatten_withRest]
    refine ⟨hcontent, rfl, ?_, hreport⟩
    rw [flatten_withRest]
    exact lengths_withRest hpaged.full hpage

namespace Bench.MemorySlots

/-- The image in a slot, if there is such a slot. -/
def imageOf (table : MemorySlots) (label : String) : Bytes :=
  ((table.slots.lookup label).map MemorySlot.image).getD []

theorem lookup_update (table : MemorySlots) (label : String) (f : MemorySlot → MemorySlot) :
  (table.update label f).slots.lookup label = (table.slots.lookup label).map f
  := by
  obtain ⟨boot, slots, writesLeft, failsFinish⟩ := table
  simp only [update]
  induction slots with
  | nil => rfl
  | cons entry slots ih =>
      obtain ⟨name, slot⟩ := entry
      rw [List.map_cons, List.lookup_cons, List.lookup_cons, ih]
      by_cases hname : label = name
      · simp [hname]
      · simp [beq_eq_false_iff_ne.mpr hname]

theorem isSome_update {table : MemorySlots} {label : String} (f : MemorySlot → MemorySlot)
    (h : (table.slots.lookup label).isSome = true) :
  ((table.update label f).slots.lookup label).isSome = true
  := by
  rw [lookup_update, Option.isSome_map, h]

theorem imageOf_append {table : MemorySlots} {label : String}
    (h : (table.slots.lookup label).isSome = true) (data : Bytes) :
  (table.append label data).imageOf label = table.imageOf label ++ data
  := by
  obtain ⟨slot, hslot⟩ := Option.isSome_iff_exists.mp h
  rw [imageOf, imageOf, append, lookup_update, hslot]
  rfl

end Bench.MemorySlots

namespace Bench.Rig

/-- A rig keeps the bytes of a slot in memory; a writer is the label of its slot. -/
def memory : Medium Rig String where
  content label rig := rig.slots.imageOf label
  writesTo writer label rig := writer = label ∧ (rig.slots.slots.lookup label).isSome = true

theorem openWriter_stores {table : MemorySlots} {label writer : String}
    (h : (table.openWriter label).1 = .ok writer) :
  (writer = label ∧ ((table.openWriter label).2.slots.lookup label).isSome = true)
    ∧ (table.openWriter label).2.imageOf label = []
  := by
  unfold MemorySlots.openWriter at h ⊢
  split at h
  case isTrue hany =>
    have hsome : (table.slots.lookup label).isSome = true := by
      obtain ⟨entry, hentry, hlabel⟩ := List.any_eq_true.mp hany
      exact List.lookup_isSome_iff.mpr ⟨entry, hentry, (BEq.comm ..).trans hlabel⟩
    obtain ⟨slot, hslot⟩ := Option.isSome_iff_exists.mp hsome
    rw [if_pos hany]
    refine ⟨⟨(Except.ok.inj h).symm, MemorySlots.isSome_update _ hsome⟩, ?_⟩
    rw [MemorySlots.imageOf, MemorySlots.lookup_update, hslot]
    rfl
  case isFalse => cases h

theorem write_stores {table : MemorySlots} {label : String}
    (h : (table.slots.lookup label).isSome = true) (page : Bytes) :
  ((table.write label page).2.slots.lookup label).isSome = true
    ∧ (table.write label page).2.imageOf label = match (table.write label page).1 with
      | .ok () => table.imageOf label ++ page
      | .error _ => table.imageOf label
  := by
  unfold MemorySlots.write
  split
  · exact ⟨h, rfl⟩
  · exact ⟨MemorySlots.isSome_update _ h, MemorySlots.imageOf_append h page⟩
  · exact ⟨MemorySlots.isSome_update _ h, MemorySlots.imageOf_append h page⟩

/-- A rig stores what is written. -/
theorem slotTable_stores :
  slotTable.Stores memory
  where
  openWriter slot site writer hok := by
    obtain ⟨after, hafter, hop | ⟨message, hfail⟩⟩ := failing_cases "open_writer"
      .storageWrite (onSlots (·.openWriter slot)) site
    · have heq : slotTable.openWriter slot site = onSlots (·.openWriter slot) after := hop
      rw [heq] at hok ⊢
      exact openWriter_stores hok
    · have heq : slotTable.openWriter slot site = (.error (.storageWrite message), after) := hfail
      rw [heq] at hok
      cases hok
  write writer slot page site h := by
    obtain ⟨rfl, hsome⟩ := h
    obtain ⟨after, hafter, hop | ⟨message, hfail⟩⟩ := failing_cases "write"
      .storageWrite (onSlots (·.write writer page)) site
    all_goals
      have hsame : memory.content writer site.state = after.state.slots.imageOf writer :=
        congrArg (·.imageOf writer) hafter.symm
      rw [← hafter] at hsome
      rw [hsame]
    · have heq : slotTable.write writer page site = onSlots (·.write writer page) after := hop
      obtain ⟨hstill, hcontent⟩ := write_stores hsome page
      rw [heq]
      exact ⟨⟨rfl, hstill⟩, hcontent⟩
    · have heq : slotTable.write writer page site = (.error (.storageWrite message), after) := hfail
      rw [heq]
      exact ⟨⟨rfl, hsome⟩, rfl⟩
  finish writer slot site _ := by
    have hleaves : Leaves (fun rig => rig.slots.imageOf slot) (slotTable.finish writer) :=
      .failing ⟨fun _ _ => rfl, fun _ _ => rfl⟩ _ _ (.onSlots fun _ => rfl)
    exact hleaves site
  select slot selected site := by
    have hleaves : Leaves (fun rig => rig.slots.imageOf slot) (slotTable.select selected) :=
      .failing ⟨fun _ _ => rfl, fun _ _ => rfl⟩ _ _ (.onSlots fun _ => rfl)
    exact hleaves site

/-- The bytes of a page. -/
def fullPage : Bytes := List.replicate pageSize 65

/-- A page and one byte more. -/
def pageAndByte : Bytes := fullPage ++ [65]

/-- An image that has just been begun. -/
def blank : Programming String where
  writer := "ota_0"
  slot := "ota_0"

/-- The programmer of a rig with a page in the slot and a byte that waits. -/
def lastByte : Programmer String where
  session := some { blank.flushed fullPage with page := [65] }

/-- This is the programmer after a begin and a write of a page and a byte, and its commit goes
well. -/
theorem lastByte_programmed :
  ∃ scene : Scene Rig,
    Programmed slotTable [.write pageAndByte (.ok ()), .begin (.ok ())] lastByte scene
      ∧ (lastByte.commit slotTable scene).1.2.isOk = true
  := by
  let begun : Scene Rig := (Programmer.begin slotTable {} { state := sampleRig "factory" [] }).2
  let paged : Scene Rig := (blank.writePage slotTable fullPage begun).2
  have hbegun : Programmed slotTable [.begin (.ok ())] { session := some blank } begun :=
    (Programmed.start .twoSlots { state := sampleRig "factory" [] }).begin
  have hwrite : blank.writePage slotTable fullPage begun = (.ok (), paged) := rfl
  refine ⟨paged, ?_, ?_⟩
  · exact hbegun.write_page rfl (by simp) rfl List.length_replicate (by decide) hwrite
  · decide +kernel

end Bench.Rig

open Bench.Rig in
/-- An image of a page and a byte is in the slot when it has been committed, in two pages. -/
theorem Programmed.refines_sample :
  ∃ (scene : Scene Bench.Rig) (done : Installation),
    Programmed slotTable [.write pageAndByte (.ok ()), .begin (.ok ())] lastByte scene
      ∧ (lastByte.commit slotTable scene).1.2 = .ok done
      ∧ memory.content "ota_0" (lastByte.commit slotTable scene).2.state = pageAndByte
      ∧ (storedIn "ota_0" (lastByte.commit slotTable scene).2.calls).map List.length
        = [pageSize, 1]
      ∧ done = ⟨"ota_0", pageSize + 1, Sha256.hex pageAndByte⟩
  := by
  obtain ⟨scene, hprogrammed, hok⟩ := lastByte_programmed
  have hlength : pageAndByte.length = pageSize + 1 := by simp [pageAndByte, fullPage]
  cases hcommit : (lastByte.commit slotTable scene).1.2 with
  | error _ =>
      rw [hcommit] at hok
      cases hok
  | ok done =>
      obtain ⟨-, -, hcommitted⟩ := Programmed.refines slotTable_stores hprogrammed rfl
      obtain ⟨hcontent, -, hlengths, hdone⟩ := hcommitted pageAndByte rfl done hcommit
      rw [hlength] at hlengths hdone
      exact ⟨scene, done, hprogrammed, hcommit, hcontent, hlengths.trans (by decide), hdone⟩

end FirmwareUpdate
