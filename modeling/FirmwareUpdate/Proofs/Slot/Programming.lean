import FirmwareUpdate.Proofs.Ensures
import FirmwareUpdate.Proofs.Sha256
import FirmwareUpdate.Proofs.Slot.Content
import FirmwareUpdate.Proofs.Slot.Staging

/-!
# Programming a spare slot

While an image is being written, its slot is not the selected one and holds exactly the bytes
that the programming has counted and digested. Only a commit selects a slot, and it does so
with its last call. All this hangs on true answers to the question which slot is selected, so
it is stated for records in which they are true.
-/

namespace FirmwareUpdate

variable {σ ω α : Type}

/-- Every operation on slots keeps `G`, with its entry in the record of calls. -/
structure Slots.Keeps (s : Slots σ ω) (G : Assertion σ) : Prop where
  bootLabel : (perform s.bootLabel .bootLabel).Keeps G
  openWriter : ∀ slot,
    (perform (s.openWriter slot) fun writer => .openWriter slot (Functor.discard writer)).Keeps G
  write : ∀ writer slot data, (perform (s.write writer data) (.write slot data)).Keeps G
  finish : ∀ writer slot, (perform (s.finish writer) (.finish slot)).Keeps G
  discard : ∀ writer slot, (perform (s.discard writer) fun _ => .discard slot).Keeps G
  select : ∀ slot, (perform (s.select slot) (.select slot)).Keeps G

/-- The record has `F` if it is truthful; and `G` holds in any case. -/
def Granted (G : Assertion σ) (boot : String) (F : List Call → Prop) : Assertion σ :=
  fun state calls => G state calls ∧ (Truthful boot calls → F calls)

namespace Granted

variable {G : Assertion σ} {boot : String} {F F' : List Call → Prop}

theorem imp {state : σ} {calls : List Call} (h : Granted G boot F state calls)
    (hF : F calls → F' calls) :
  Granted G boot F' state calls
  := ⟨h.1, fun htruthful => hF (h.2 htruthful)⟩

theorem imp_left {act : Act σ α} {Q : α → Assertion σ} (h : act.Ensures (Granted G boot F') Q)
    (hF : ∀ calls, F calls → F' calls) :
  act.Ensures (Granted G boot F) Q
  := by
  apply Act.Ensures.imp_left h
  intro _ calls h
  apply h.imp (hF calls)

/-- A call that keeps `G` may be followed by what its entry makes of the record. -/
theorem perform {op : Op σ α} {entry : α → Call} {Q : α → List Call → Prop}
    (hG : (perform op entry).Keeps G)
    (hF : ∀ a calls, Truthful boot (entry a :: calls) → F calls → Q a (entry a :: calls)) :
  Act.Ensures (Granted G boot F) (FirmwareUpdate.perform op entry) fun a => Granted G boot (Q a)
  := by
  constructor
  intro scene h
  obtain ⟨hg, hf⟩ := h
  use hG.run scene hg
  intro htruthful
  apply hF _ _ htruthful
  apply hf htruthful.tail

end Granted

/-! ### Records in order -/

/-- Since `earlier` nothing has been selected, and every call so far has been in order. -/
structure Steady (boot : String) (earlier calls : List Call) : Prop where
  orderly : Orderly boot calls
  suffix : earlier <:+ calls
  since_eq : sinceSelection calls = sinceSelection earlier

namespace Steady

variable {boot : String} {earlier calls : List Call}

theorem refl (h : Orderly boot calls) :
  Steady boot calls calls
  := ⟨h, List.suffix_refl _, rfl⟩

/-- A call that selects nothing and is in order. -/
theorem cons {call : Call} (h : Steady boot earlier calls) (hselection : call.selection? = none)
    (hslot : ∀ slot, call.slot? = some slot →
      SlotRing.twoSlots.next (selected boot calls) = .ok slot) :
  Steady boot earlier (call :: calls)
  := by
  constructor
  · apply h.orderly.cons hslot
  · apply h.suffix.trans (List.suffix_cons call calls)
  · rw [sinceSelection_cons hselection, h.since_eq]

end Steady

/-- Calls that have nothing to do with the slots leave `F` as it is. -/
def SlotsOnly (F : List Call → Prop) : Prop :=
  ∀ call calls, call.isForeign = true → F calls → F (call :: calls)

theorem steady_slotsOnly {boot : String} {earlier : List Call} :
  SlotsOnly (Steady boot earlier)
  := by
  intro call calls hforeign h
  apply h.cons (Call.selection_of_isForeign hforeign)
  rw [Call.slot_of_isForeign hforeign]
  rintro _ ⟨⟩

/-- The latest selection since `earlier`, the only one, is the one of an installed image, which
is in its slot as it was counted and digested. -/
structure Switched (boot : String) (earlier : List Call) (done : Installation)
    (calls : List Call) : Prop where
  orderly : Orderly boot calls
  since_eq : ∃ middle, Steady boot earlier middle
    ∧ sinceSelection calls = .select done.slot (.ok ()) :: middle
  image : ∃ image, imageIn done.slot calls = some image ∧ image.length = done.size
    ∧ Sha256.hex image = done.digest

theorem switched_slotsOnly {boot : String} {earlier : List Call} {done : Installation} :
  SlotsOnly (Switched boot earlier done)
  := by
  intro call calls hforeign h
  obtain ⟨horderly, ⟨middle, hmiddle, hsince⟩, image, himage, hdone⟩ := h
  refine ⟨?_, ⟨middle, hmiddle, ?_⟩, image, ?_, hdone⟩
  · apply horderly.cons
    rw [Call.slot_of_isForeign hforeign]
    rintro _ ⟨⟩
  · rw [sinceSelection_cons (Call.selection_of_isForeign hforeign), hsince]
  · rw [imageIn_cons_of_isForeign hforeign, himage]

/-- What a commit comes to: an installation has switched the slots, a failure nothing. -/
def Committed (boot : String) (earlier : List Call) :
    Except Fault Installation → List Call → Prop
  | .ok done => Switched boot earlier done
  | .error _ => Steady boot earlier

/-! ### The image that is being written -/

namespace Programming

variable {G : Assertion σ} {s : Slots σ ω} {boot : String} {earlier calls : List Call}
  {p : Programming ω}

/-- The slot of a programming follows the selected one, and nothing has been selected since
`earlier`. -/
structure Spare (boot : String) (earlier : List Call) (p : Programming ω) (calls : List Call) :
    Prop extends Steady boot earlier calls where
  next_eq : SlotRing.twoSlots.next (selected boot calls) = .ok p.slot

/-- The slot of a programming moreover holds exactly the bytes that have been counted and
digested. -/
structure Sound (boot : String) (earlier : List Call) (p : Programming ω) (calls : List Call) :
    Prop extends Spare boot earlier p calls where
  image : ∃ image, imageIn p.slot calls = some image ∧ p.cursor = image.length
    ∧ p.digest = Sha256.Stream.empty.update image

/-- A call for the slot of a programming leaves the slot spare. -/
theorem Spare.cons {call : Call} (h : p.Spare boot earlier calls)
    (hselection : call.selection? = none)
    (hslot : ∀ slot, call.slot? = some slot → slot = p.slot) :
  p.Spare boot earlier (call :: calls)
  := by
  constructor
  · apply h.toSteady.cons hselection
    intro slot hcall
    rw [hslot slot hcall]
    apply h.next_eq
  · rw [selected_cons hselection]
    apply h.next_eq

theorem sound_slotsOnly :
  SlotsOnly (p.Sound boot earlier)
  := by
  intro call calls hforeign h
  constructor
  · apply h.toSpare.cons (Call.selection_of_isForeign hforeign)
    rw [Call.slot_of_isForeign hforeign]
    rintro _ ⟨⟩
  · rw [imageIn_cons_of_isForeign hforeign]
    apply h.image

/-- The bytes that wait for their page to fill are not in the slot yet. -/
theorem Sound.withPage (h : p.Sound boot earlier calls) (page : Bytes) :
  ({ p with page } : Programming ω).Sound boot earlier calls
  := ⟨⟨h.toSteady, h.next_eq⟩, h.image⟩

/-- A written page is counted and digested. -/
theorem Sound.flushed (h : p.Sound boot earlier calls) (page : Bytes) :
  (p.flushed page).Sound boot earlier (.write p.slot page (.ok ()) :: calls)
  := by
  obtain ⟨image, himage, hcursor, hdigest⟩ := h.image
  have hspare : p.Spare boot earlier (.write p.slot page (.ok ()) :: calls) := by
    apply h.toSpare.cons rfl
    rintro _ ⟨rfl⟩
    rfl
  refine ⟨⟨hspare.toSteady, hspare.next_eq⟩, image ++ page, ?_, ?_, ?_⟩
  · rw [Programming.flushed, imageIn_cons_target rfl, himage]
    rfl
  · rw [Programming.flushed, hcursor, List.length_append]
  · rw [Programming.flushed, hdigest, Sha256.Stream.update_update]

/-- Writing a page takes it in, or fails and leaves the slot spare. -/
theorem writePage_sound (hs : s.Keeps G) (page : Bytes) :
  Act.Ensures (Granted G boot (p.Sound boot earlier)) (p.writePage s page)
    (fun outcome => Granted G boot fun calls => p.Spare boot earlier calls
      ∧ (outcome = .ok () → (p.flushed page).Sound boot earlier calls))
  := by
  unfold writePage
  apply Act.Ensures.bind_report
  apply Granted.perform (hs.write p.writer p.slot page)
  intro outcome calls _ h
  constructor
  · apply h.toSpare.cons rfl
    rintro _ ⟨rfl⟩
    rfl
  · rintro rfl
    apply h.flushed page

/-- Taking in data keeps a programming sound, or fails and leaves its slot spare. -/
theorem stage_sound (hs : s.Keeps G) (p : Programming ω) (data : Bytes) :
  Act.Ensures (Granted G boot (p.Sound boot earlier)) (p.stage s data)
    (fun r => Granted G boot fun calls => r.1.Spare boot earlier calls
      ∧ (r.2 = .ok () → r.1.Sound boot earlier calls))
  := by
  induction p, data using stage_induction with
  | wait p data hwait =>
      rw [stage_wait hwait]
      apply Act.Ensures.pure
      intro _ _ h
      apply h.imp
      intro hsound
      have hwith := hsound.withPage (p.page ++ data)
      use hwith.toSpare
      intro _
      apply hwith
  | fill p data hne hfull ih =>
      rw [stage_full hne hfull]
      apply (writePage_sound hs _).bind
      intro outcome
      split
      · apply Act.Ensures.pure
        intro _ _ h
        apply h.imp
        rintro ⟨hspare, -⟩
        use ⟨hspare.toSteady, hspare.next_eq⟩
        rintro ⟨⟩
      · apply Granted.imp_left ih
        intro _ h
        obtain ⟨-, hsound⟩ := h
        apply hsound rfl

/-- Writing what waits for its page to fill keeps a programming sound, or fails and leaves its
slot spare. The slot stays the same. -/
theorem flush_sound (hs : s.Keeps G) (p : Programming ω) :
  Act.Ensures (Granted G boot (p.Sound boot earlier)) (p.flush s)
    (fun r => Granted G boot fun calls => r.1.Spare boot earlier calls
      ∧ (r.2 = .ok () → r.1.Sound boot earlier calls))
  := by
  unfold flush
  split
  · apply Act.Ensures.pure
    intro _ _ h
    apply h.imp
    intro hsound
    use hsound.toSpare
    intro _
    apply hsound
  · apply (writePage_sound hs p.page).bind
    intro outcome
    split
    · apply Act.Ensures.pure
      intro _ _ h
      apply h.imp
      rintro ⟨hspare, -⟩
      use hspare
      rintro ⟨⟩
    · apply Act.Ensures.pure
      intro _ _ h
      apply h.imp
      rintro ⟨-, hsound⟩
      specialize hsound rfl
      use hsound.toSpare
      intro _
      apply hsound

/-- Giving a spare slot up selects nothing. -/
theorem discard_steady (hs : s.Keeps G) (p : Programming ω) :
  Act.Ensures (Granted G boot (p.Spare boot earlier))
    (perform (s.discard p.writer) fun _ => .discard p.slot)
    (fun _ => Granted G boot (Steady boot earlier))
  := by
  apply Granted.perform (hs.discard p.writer p.slot)
  intro _ calls _ hspare
  apply hspare.toSteady.cons rfl
  rintro _ ⟨rfl⟩
  apply hspare.next_eq

/-- Having the image checked keeps a programming sound, or fails and leaves its slot spare. -/
theorem finish_sound (hs : s.Keeps G) (p : Programming ω) :
  Act.Ensures (Granted G boot (p.Sound boot earlier))
    (perform (s.finish p.writer) (.finish p.slot))
    (fun outcome => Granted G boot fun calls => p.Spare boot earlier calls
      ∧ (outcome = .ok () → p.Sound boot earlier calls))
  := by
  apply Granted.perform (hs.finish p.writer p.slot)
  intro finished calls _ hsound
  have hspare : p.Spare boot earlier (.finish p.slot finished :: calls) := by
    apply hsound.toSpare.cons rfl
    rintro _ ⟨rfl⟩
    rfl
  use hspare
  rintro rfl
  use hspare
  rw [imageIn_cons_target rfl]
  apply hsound.image

/-- Selecting the slot of a sound programming installs exactly the image that it has written, or
fails and selects nothing. -/
theorem select_committed (hs : s.Keeps G) (p : Programming ω) :
  Act.Ensures (Granted G boot (p.Sound boot earlier))
    (perform (s.select p.slot) (.select p.slot))
    (fun chosen => Granted G boot (Committed boot earlier (chosen.map fun _ => p.installation)))
  := by
  apply Granted.perform (hs.select p.slot)
  intro chosen calls _ hsound
  cases chosen with
  | error fault =>
      apply hsound.toSteady.cons rfl
      rintro _ ⟨rfl⟩
      apply hsound.next_eq
  | ok _ =>
      obtain ⟨image, himage, hcursor, hdigest⟩ := hsound.image
      -- the selection is the last call, so that it stands at the head of the record
      refine ⟨?_, ⟨calls, hsound.toSteady, sinceSelection_select⟩, image, ?_, ?_, ?_⟩
      · apply hsound.orderly.cons
        rintro _ ⟨rfl⟩
        apply hsound.next_eq
      · rw [imageIn_cons (by rintro ⟨⟩)]
        apply himage
      · apply hcursor.symm
      · rw [Programming.installation, hdigest]
        rfl

end Programming

/-! ### The operations of a programmer -/

namespace Programmer

variable {G : Assertion σ} {s : Slots σ ω} {boot : String} {earlier calls : List Call}
  {programmer : Programmer ω}

/-- The programmer works with the two slots, and the record has `F` if it is truthful. -/
def Fit (G : Assertion σ) (boot : String) (programmer : Programmer ω) (F : List Call → Prop) :
    Assertion σ :=
  fun state calls => programmer.ring = .twoSlots ∧ Granted G boot F state calls

theorem Fit.imp {F F' : List Call → Prop} {state : σ} (h : Fit G boot programmer F state calls)
    (hF : F calls → F' calls) :
  Fit G boot programmer F' state calls
  := ⟨h.1, h.2.imp hF⟩

theorem Fit.imp_left {F F' : List Call → Prop} {act : Act σ α} {Q : α → Assertion σ}
    (h : act.Ensures (Fit G boot programmer F') Q) (hF : ∀ calls, F calls → F' calls) :
  act.Ensures (Fit G boot programmer F) Q
  := by
  apply Act.Ensures.imp_left h
  intro _ calls h
  apply h.imp (hF calls)

/-- Nothing has been selected since `earlier`, and an image that is being written is sound. -/
structure Sound (boot : String) (earlier : List Call) (programmer : Programmer ω)
    (calls : List Call) : Prop extends Steady boot earlier calls where
  session : ∀ p, programmer.session = some p → p.Sound boot earlier calls

/-- Nothing has been selected since `earlier`, and the slot of an image that is being written is
spare. -/
structure Spare (boot : String) (earlier : List Call) (programmer : Programmer ω)
    (calls : List Call) : Prop extends Steady boot earlier calls where
  session : ∀ p, programmer.session = some p → p.Spare boot earlier calls

theorem Sound.spare (h : programmer.Sound boot earlier calls) :
  programmer.Spare boot earlier calls
  := by
  use h.toSteady
  intro p hp
  apply (h.session p hp).toSpare

/-- A programmer with which nothing is being written is sound. -/
theorem Sound.of_none (h : Steady boot earlier calls) (hnone : programmer.session = none) :
  programmer.Sound boot earlier calls
  := by
  use h
  intro p hp
  rw [hnone] at hp
  cases hp

theorem sound_slotsOnly :
  SlotsOnly (programmer.Sound boot earlier)
  := by
  intro call calls hforeign h
  use steady_slotsOnly call calls hforeign h.toSteady
  intro p hp
  apply Programming.sound_slotsOnly call calls hforeign (h.session p hp)

/-- A slot is opened only if it is not the selected one, and then it is empty. -/
theorem begin_sound (hs : s.Keeps G) :
  Act.Ensures (Fit G boot programmer (programmer.Sound boot earlier)) (programmer.begin s)
    (fun r => Fit G boot r.1 (r.1.Sound boot earlier))
  := by
  apply Act.Ensures.of_fact
  intro hring
  unfold begin
  split
  · apply Act.Ensures.bind_report
    exact .pure fun _ _ h => ⟨hring, h⟩
  case isFalse hclosed =>
  have hnone : programmer.session = none := by simpa [isOpen] using hclosed
  apply Act.Ensures.bind (R := fun label => Granted G boot fun calls =>
    programmer.Sound boot earlier calls
      ∧ ∀ running, label = .ok running → running = selected boot calls)
  · apply Granted.perform hs.bootLabel
    intro label calls htruthful h
    use .of_none (h.toSteady.cons rfl (by rintro _ ⟨⟩)) hnone
    rintro running rfl
    apply htruthful.head
  intro label
  split
  · exact .pure fun _ _ h => ⟨hring, h.imp And.left⟩
  case h_2 running =>
  split
  · exact .pure fun _ _ h => ⟨hring, h.imp And.left⟩
  case h_2 slot hnext =>
  apply Act.Ensures.bind (R := fun opened => Granted G boot fun calls =>
    programmer.Sound boot earlier calls
      ∧ SlotRing.twoSlots.next (selected boot calls) = .ok slot
      ∧ ∀ writer, opened = .ok writer → imageIn slot calls = some [])
  · apply Granted.perform (hs.openWriter slot)
    rintro opened calls - ⟨hsound, hrunning⟩
    rw [hring, hrunning running rfl] at hnext
    refine ⟨.of_none (hsound.toSteady.cons rfl ?_) hnone, ?_, ?_⟩
    · rintro _ ⟨rfl⟩
      apply hnext
    · rw [selected_cons rfl]
      apply hnext
    · rintro writer rfl
      apply imageIn_cons_target rfl
  intro opened
  split
  · exact .pure fun _ _ h => ⟨hring, h.imp And.left⟩
  case h_2 writer =>
  apply Act.Ensures.bind_report
  apply Act.Ensures.pure
  intro _ _ h
  use hring
  apply h.imp
  rintro ⟨hsound, hnext, himage⟩
  use hsound.toSteady
  rintro _ ⟨rfl⟩
  refine ⟨⟨hsound.toSteady, hnext⟩, [], himage writer rfl, rfl, ?_⟩
  apply Sha256.Stream.empty_update_nil.symm

/-- Taking in data keeps a programmer sound, or fails and leaves the slot spare. -/
theorem write_sound (hs : s.Keeps G) (data : Bytes) :
  Act.Ensures (Fit G boot programmer (programmer.Sound boot earlier)) (programmer.write s data)
    (fun r => Fit G boot r.1 fun calls => r.1.Spare boot earlier calls
      ∧ (r.2 = .ok () → r.1.Sound boot earlier calls))
  := by
  apply Act.Ensures.of_fact
  intro hring
  unfold write
  split
  case h_1 =>
    apply Act.Ensures.pure
    intro _ _ h
    use hring
    apply h.imp
    intro hsound
    use hsound.spare
    rintro ⟨⟩
  case h_2 p hsession =>
    apply Act.Ensures.bind
    · apply Granted.imp_left (Programming.stage_sound hs p data)
      intro _ hsound
      apply hsound.session p hsession
    intro r
    apply Act.Ensures.pure
    intro _ _ h
    use hring
    apply h.imp
    rintro ⟨hspare, hsound⟩
    constructor
    · use hspare.toSteady
      rintro _ ⟨rfl⟩
      apply hspare
    · intro hok
      use hspare.toSteady
      rintro _ ⟨rfl⟩
      apply hsound hok

/-- Giving an image up closes the programmer and selects nothing. -/
theorem abort_sound (hs : s.Keeps G) :
  Act.Ensures (Fit G boot programmer (programmer.Spare boot earlier)) (programmer.abort s)
    (fun r state calls => r.1.session = none
      ∧ Fit G boot r.1 (Steady boot earlier) state calls)
  := by
  apply Act.Ensures.of_fact
  intro hring
  unfold abort
  split
  case h_1 hnone =>
    exact .pure fun _ _ h => ⟨hnone, hring, h.imp Spare.toSteady⟩
  case h_2 p hsession =>
    apply Act.Ensures.bind_report
    apply Act.Ensures.bind
    · apply Granted.imp_left (Programming.discard_steady hs p)
      intro _ hspare
      apply hspare.session p hsession
    intro _
    exact .pure fun _ _ h => ⟨rfl, hring, h⟩

/-- A commit closes the programmer. It installs exactly the image that has been written, or
selects nothing. -/
theorem commit_sound (hs : s.Keeps G) :
  Act.Ensures (Fit G boot programmer (programmer.Sound boot earlier)) (programmer.commit s)
    (fun r state calls => r.1.session = none
      ∧ Fit G boot r.1 (Committed boot earlier r.2) state calls)
  := by
  apply Act.Ensures.of_fact
  intro hring
  unfold commit
  split
  case h_1 hnone =>
    exact .pure fun _ _ h => ⟨hnone, hring, h.imp Sound.toSteady⟩
  case h_2 p hsession =>
  dsimp only
  apply Act.Ensures.bind
  · apply Granted.imp_left (Programming.flush_sound hs p)
    intro _ hsound
    apply hsound.session p hsession
  intro flushed
  split
  case h_1 p fault =>
    apply Act.Ensures.bind_report
    apply Act.Ensures.bind
    · apply Granted.imp_left (Programming.discard_steady hs p)
      intro _ h
      apply h.left
    intro _
    exact .pure fun _ _ h => ⟨rfl, hring, h⟩
  case h_2 p =>
  apply Act.Ensures.bind
  · apply Granted.imp_left (Programming.finish_sound hs p)
    intro _ h
    obtain ⟨-, hsound⟩ := h
    apply hsound rfl
  intro finished
  split
  · apply Act.Ensures.bind_report
    exact .pure fun _ _ h => ⟨rfl, hring, h.imp fun hspare => hspare.1.toSteady⟩
  apply Act.Ensures.bind
  · apply Granted.imp_left (Programming.select_committed hs p)
    intro _ h
    obtain ⟨-, hsound⟩ := h
    apply hsound rfl
  intro chosen
  split
  · apply Act.Ensures.bind_report
    exact .pure fun _ _ h => ⟨rfl, hring, h⟩
  · apply Act.Ensures.bind_report
    exact .pure fun _ _ h => ⟨rfl, hring, h⟩

end Programmer

end FirmwareUpdate
