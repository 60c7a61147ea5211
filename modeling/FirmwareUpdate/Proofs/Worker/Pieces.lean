import FirmwareUpdate.Proofs.Slot.Intake
import FirmwareUpdate.Worker.Download

/-!
# Images in pieces

The fragments of an image are stored one after the other. What a transfer comes to that way, and
what it does to the slots, is what it comes to when all of the image is stored at once.
-/

namespace FirmwareUpdate

variable {σ ω : Type} {p : Platform σ ω}

section

variable {α β γ : Type} {act : Act σ α} {view : β → γ} {next next' : α → Act σ β}

/-- Acts that go on alike from every answer that is ensured. -/
theorem map_bind_congr_of {P : α → Prop}
    (hact : Act.Ensures (fun _ _ => True) act fun a _ _ => P a)
    (h : ∀ a, P a → view <$> next a = view <$> next' a) :
  view <$> (act >>= next) = view <$> (act >>= next')
  := by
  rw [map_bind, map_bind]
  apply Act.bind_congr_of hact h

/-- Acts that go on alike. -/
theorem map_bind_congr (h : ∀ a, view <$> next a = view <$> next' a) :
  view <$> (act >>= next) = view <$> (act >>= next')
  := map_bind_congr_of (P := fun _ => True) .any fun a _ => h a

end

/-- What a transfer has come to: how it leaves the programmer and the status, and how much of the
image has arrived, unless something has gone wrong. -/
structure Landing (ω : Type) where
  programmer : Programmer ω
  status : Status
  size : Except Fault Nat

namespace Transfer

variable {x : Transfer ω}

/-- What a transfer comes to with an outcome. -/
def landing : Transfer ω × Outcome → Landing ω
  | (x, outcome) => ⟨x.programmer, x.status, outcome.map fun _ => x.size⟩

/-- Gives up an image that is still open from before. -/
def vacate (p : Platform σ ω) (x : Transfer ω) : Act σ (Programmer ω × Outcome) :=
  if x.programmer.isOpen then do
    report Worker.origin .warn "Stale programming session found, aborting it first"
    x.programmer.abort p.slots
  else pure (x.programmer, .ok ())

/-- Opens the slot for a transfer whose programmer has been vacated. -/
def enter (p : Platform σ ω) (x : Transfer ω) :
    Programmer ω × Outcome → Act σ (Transfer ω × Outcome)
  | (programmer, .error fault) => return ({ x with programmer }, .error fault)
  | (programmer, .ok ()) => do
    match ← programmer.begin p.slots with
    | (programmer, .error fault) => return ({ x with programmer }, .error fault)
    | (programmer, .ok ()) =>
      let status := { x.status with inProgress := true }
      return ({ x with programmer, status, isStarted := true }, .ok ())

/-- Gives up an image that cannot be written. -/
def lose (p : Platform σ ω) (x : Transfer ω) (programmer : Programmer ω) (fault : Fault) :
    Act σ (Transfer ω × Outcome) := do
  report Worker.origin .error
    s!"Flash write failed ({fault.message}), aborting firmware update!"
  match ← programmer.abort p.slots with
  | (programmer, .error later) => return ({ x with programmer }, .error later)
  | (programmer, .ok ()) => return ({ x with programmer }, .error fault)

/-- A transfer after bytes have been written, `size` together with those before. -/
def kept (p : Platform σ ω) (x : Transfer ω) (size : Nat) :
    Programmer ω × Outcome → Act σ (Transfer ω × Outcome)
  | (programmer, .ok ()) => return ({ x with programmer, size }, .ok ())
  | (programmer, .error fault) => lose p { x with size } programmer fault

/-- Writes bytes of an image for which writing has been started. -/
def keep (p : Platform σ ω) (x : Transfer ω) (bytes : Bytes) : Act σ (Transfer ω × Outcome) :=
  x.programmer.write p.slots bytes >>= x.kept p (x.size + bytes.length)

theorem begin_of_started (h : x.isStarted = true) :
  x.begin p = pure (x, .ok ())
  := by
  rw [begin, if_pos h]

theorem begin_of_not_started (h : ¬ x.isStarted = true) :
  x.begin p = x.vacate p >>= x.enter p
  := by
  rw [begin, if_neg h, vacate]
  dsimp only
  split
  · rw [bind_assoc]
    congr 2
    funext _
    congr 1
    funext r
    obtain ⟨programmer, _ | _⟩ := r
    · rfl
    · rfl
  · rfl

/-- Bytes are stored by starting to write, unless that has been done, and writing them. -/
theorem store_eq (x : Transfer ω) (bytes : Bytes) :
  x.store p bytes = x.begin p >>= proceed fun x => x.keep p bytes
  := by
  unfold store
  congr 1
  funext r
  obtain ⟨x, fault | ⟨⟩⟩ := r
  · rfl
  · change _ = x.programmer.write p.slots bytes >>= x.kept p (x.size + bytes.length)
    congr 1

/-- Writing is started, unless something goes wrong. -/
theorem begin_started (x : Transfer ω) :
  Act.Ensures (fun _ _ => True) (x.begin p)
    (fun r _ _ => r.2 = .ok () → r.1.isStarted = true)
  := by
  have hfault : ∀ {x : Transfer ω} {fault : Fault},
      Act.Ensures (fun _ _ => True) (pure (x, .error fault) : Act σ (Transfer ω × Outcome))
        (fun r _ _ => r.2 = .ok () → r.1.isStarted = true) := by
    intro x fault
    exact .pure fun _ _ _ => by rintro ⟨⟩
  by_cases hstarted : x.isStarted = true
  · rw [begin_of_started hstarted]
    exact .pure fun _ _ _ _ => hstarted
  · rw [begin_of_not_started hstarted]
    apply Act.Ensures.bind .any
    rintro ⟨programmer, _ | _⟩
    · apply hfault
    apply Act.Ensures.bind .any
    rintro ⟨programmer, _ | _⟩
    · apply hfault
    · exact .pure fun _ _ _ _ => rfl

/-- A transfer that has been started stays so. -/
theorem keep_started (h : x.isStarted = true) (bytes : Bytes) :
  Act.Ensures (fun _ _ => True) (x.keep p bytes)
    (fun r _ _ => r.1.isStarted = true)
  := by
  apply Act.Ensures.bind .any
  rintro ⟨programmer, fault | ⟨⟩⟩
  · apply Act.Ensures.bind_report
    apply Act.Ensures.bind .any
    rintro ⟨programmer, _ | _⟩
    · exact .pure fun _ _ _ => h
    · exact .pure fun _ _ _ => h
  · exact .pure fun _ _ _ => h

/-- How much has arrived of an image that cannot be written does not matter. -/
theorem landing_lose (x : Transfer ω) (size : Nat) (programmer : Programmer ω) (fault : Fault) :
  landing <$> lose p { x with size } programmer fault = landing <$> x.lose p programmer fault
  := by
  unfold lose
  apply map_bind_congr
  intro _
  apply map_bind_congr
  rintro ⟨programmer, _ | _⟩
  · rfl
  · rfl

/-- Nothing follows an image that cannot be written. -/
theorem lose_proceed (x : Transfer ω) (programmer : Programmer ω) (fault : Fault)
    (next : Transfer ω → Act σ (Transfer ω × Outcome)) :
  x.lose p programmer fault >>= proceed next = x.lose p programmer fault
  := by
  unfold lose
  rw [bind_assoc]
  congr 1
  funext _
  rw [bind_assoc]
  congr 1
  funext r
  obtain ⟨programmer, _ | _⟩ := r
  · rfl
  · rfl

/-- An image may be written in two pieces. -/
theorem keep_append (x : Transfer ω) (bytes more : Bytes) :
  landing <$> x.keep p (bytes ++ more)
    = landing <$> (x.keep p bytes >>= proceed fun x => x.keep p more)
  := by
  have hlost : ∀ {size size' : Nat} {programmer : Programmer ω} {fault : Fault},
      landing <$> lose p { x with size } programmer fault
        = landing <$> lose p { x with size := size' } programmer fault := by
    intro size size' programmer fault
    apply (landing_lose x size programmer fault).trans (landing_lose x size' programmer fault).symm
  unfold keep
  rw [Programmer.write_append, bind_assoc, bind_assoc]
  apply map_bind_congr
  rintro ⟨programmer, fault | ⟨⟩⟩
  · change _ = landing <$> (lose p { x with size := x.size + bytes.length } programmer fault
      >>= proceed _)
    rw [lose_proceed]
    apply hlost
  · let x' : Transfer ω := { x with programmer, size := x.size + bytes.length }
    change landing <$> (programmer.write p.slots more >>= _)
      = landing <$> (programmer.write p.slots more >>= x'.kept p (x'.size + more.length))
    apply map_bind_congr
    rintro ⟨programmer, fault | ⟨⟩⟩
    · apply hlost
    · simp [x', kept, landing, List.length_append, Nat.add_assoc]

/-- Stores fragments of an image one after the other, until one cannot be stored. -/
def storeAll (p : Platform σ ω) (x : Transfer ω) : List Bytes → Act σ (Transfer ω × Outcome)
  | [] => return (x, .ok ())
  | bytes :: rest => x.store p bytes >>= proceed fun x => storeAll p x rest

/-- Stores all that arrives of an image at once. Nothing is written of an image without bytes. -/
def storeBody (p : Platform σ ω) (x : Transfer ω) (body : Bytes) :
    Act σ (Transfer ω × Outcome) :=
  if body = [] then return (x, .ok ()) else x.store p body

theorem storeBody_nil (x : Transfer ω) :
  x.storeBody p [] = pure (x, .ok ())
  := by
  rw [storeBody, if_pos rfl]

theorem storeBody_of_ne (x : Transfer ω) {body : Bytes} (h : body ≠ []) :
  x.storeBody p body = x.begin p >>= proceed fun x => x.keep p body
  := by
  rw [storeBody, if_neg h, store_eq]

/-- An image may be stored in two pieces. -/
theorem storeBody_append (x : Transfer ω) (bytes more : Bytes) :
  landing <$> x.storeBody p (bytes ++ more)
    = landing <$> (x.storeBody p bytes >>= proceed fun x => x.storeBody p more)
  := by
  by_cases hbytes : bytes = []
  · rw [hbytes, List.nil_append, storeBody_nil, pure_bind]
    rfl
  by_cases hmore : more = []
  · rw [hmore, List.append_nil]
    nth_rewrite 1 [← bind_pure (x.storeBody p bytes)]
    apply map_bind_congr
    rintro ⟨x, fault | ⟨⟩⟩
    · rfl
    · rw [proceed, storeBody_nil]
  rw [storeBody_of_ne x (List.append_ne_nil_of_left_ne_nil hbytes more), storeBody_of_ne x hbytes,
    bind_assoc]
  apply map_bind_congr_of (begin_started x)
  rintro ⟨x, fault | ⟨⟩⟩ hstarted
  · rfl
  have hx : x.isStarted = true := hstarted rfl
  apply (keep_append x bytes more).trans
  apply map_bind_congr_of (keep_started hx bytes)
  rintro ⟨x, fault | ⟨⟩⟩ hx
  · rfl
  · rw [proceed, proceed, storeBody_of_ne x hmore, begin_of_started hx, pure_bind]
    rfl

/-- Storing the fragments of an image is storing all of them at once. -/
theorem storeAll_eq (x : Transfer ω) {fragments : List Bytes} (h : [] ∉ fragments) :
  landing <$> x.storeAll p fragments = landing <$> x.storeBody p fragments.flatten
  := by
  induction fragments generalizing x with
  | nil => rfl
  | cons bytes rest ih =>
      rw [List.mem_cons, not_or] at h
      obtain ⟨hne, hrest⟩ := h
      rw [List.flatten_cons, storeBody_append, storeAll, storeBody, if_neg (Ne.symm hne)]
      apply map_bind_congr
      rintro ⟨x, fault | ⟨⟩⟩
      · rfl
      · apply ih x hrest

end Transfer

end FirmwareUpdate
