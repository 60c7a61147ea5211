import FirmwareUpdate.Proofs.Http.Reception

/-!
# What faults leave behind

Whatever has been fed to a reception and drained from it, each kind of fault leaves a known state. A
chunk that is refused because it does not fit changes nothing. A chunk with which a bad head has
arrived is taken in, so that the same head is found again with each chunk that follows. A chunk with
index zero does not know of anything before it.

The main statement is `run_faults`.
-/

namespace FirmwareUpdate.Reception

/-- What is done to a reception. -/
inductive Move
  | feed (index : Nat) (chunk : Bytes)
  | drain
deriving DecidableEq, Repr

/-- The reception after some moves, and the answers to the chunks among them in order. -/
def run (r : Reception) : List Move → Reception × List (Except ProtocolFault Feed)
  | [] => (r, [])
  | .feed index chunk :: moves =>
    let (r, answer) := r.feed index chunk
    let (r, answers) := r.run moves
    (r, answer :: answers)
  | .drain :: moves => r.drain.run moves

variable {r after : Reception} {index : Nat} {chunk : Bytes} {fault : ProtocolFault}

/-! ### What is held -/

/-- The first chunk of a response finds nothing held. -/
theorem filled_started (h : r.held ≤ r.buffer.front.length) (index : Nat) :
  (if index = 0 then r.restart else r).held
    ≤ (if index = 0 then r.restart else r).buffer.front.length
  := by
  split
  · apply Nat.zero_le
  · apply h

/-- After a chunk as before it, no more is held than has been written. -/
theorem filled_feed (h : r.held ≤ r.buffer.front.length) (index : Nat) (chunk : Bytes) :
  (r.feed index chunk).1.held ≤ (r.feed index chunk).1.buffer.front.length
  := by
  have hstarted := filled_started h index
  rcases hfeed : r.feed index chunk with ⟨after, answer⟩
  cases feeds_of_feed hfeed with
  | refused hstart _ =>
      subst hstart
      exact hstarted
  | taken hstart _ htakes =>
      subst hstart
      cases htakes with
      | body _ hafter =>
          subst hafter
          exact filled_append hstarted chunk
      | unfinished _ _ => exact filled_append hstarted chunk
      | rejected _ _ _ => exact filled_append hstarted chunk
      | accepted _ _ _ hafter =>
          subst hafter
          exact filled_enterBody _ _ _

/-- What no move changes: no more is held than has been written, and how the body is handed out and
the size of the buffer stay. -/
theorem run_keeps (h : r.held ≤ r.buffer.front.length) (moves : List Move) :
  (r.run moves).1.held ≤ (r.run moves).1.buffer.front.length
    ∧ (r.run moves).1.delivery = r.delivery
    ∧ (r.run moves).1.buffer.capacity = r.buffer.capacity
  := by
  induction moves generalizing r with
  | nil => exact ⟨h, rfl, rfl⟩
  | cons move moves ih =>
      cases move with
      | feed index chunk =>
          obtain ⟨hdelivery, hcapacity⟩ := r.feed_keeps index chunk
          obtain ⟨hfilled, hdelivery', hcapacity'⟩ := ih (filled_feed h index chunk)
          exact ⟨hfilled, hdelivery'.trans hdelivery, hcapacity'.trans hcapacity⟩
      | drain => apply ih (r := r.drain) (Nat.zero_le _)

/-! ### Chunks that are refused -/

/-- A chunk that does not fit behind the held bytes changes nothing. -/
theorem feed_refused (hindex : index ≠ 0) (hlong : r.buffer.capacity < r.held + chunk.length) :
  r.feed index chunk
    = (r, .error (.bufferTooSmall r.buffer.capacity (r.held + chunk.length)))
  := by
  unfold feed
  rw [if_neg hindex]
  exact if_pos hlong

/-- Only chunks that do not fit are refused. -/
theorem feed_refused_iff (hindex : index ≠ 0) :
  (∃ capacity required, (r.feed index chunk).2 = .error (.bufferTooSmall capacity required))
    ↔ r.buffer.capacity < r.held + chunk.length
  := by
  constructor
  · rintro ⟨capacity, required, hanswer⟩
    rcases hfeed : r.feed index chunk with ⟨after, answer⟩
    rw [hfeed] at hanswer
    subst hanswer
    cases feeds_of_feed hfeed with
    | refused hstart hlong =>
        rw [if_neg hindex] at hstart
        rwa [hstart] at hlong
    | taken _ _ htakes =>
        cases htakes with
        | rejected _ _ hhead => cases Head.isRefusal_of_ofBytes hhead
  · intro hlong
    rw [feed_refused hindex hlong]
    exact ⟨_, _, rfl⟩

/-! ### Heads that are rejected -/

/-- A reception that holds a head that is rejected with a fault. -/
structure Spoiled (r : Reception) (fault : ProtocolFault) : Prop where
  head_eq : r.head = none
  filled : r.held ≤ r.buffer.front.length
  rejected : ∃ start body, Text.splitAtFirst Head.terminator r.front = some (start, body)
    ∧ Head.ofBytes start = .error fault

/-- A reception is spoiled by a chunk that is taken in and answered with a fault. -/
theorem spoiled_of_feed (hfilled : r.held ≤ r.buffer.front.length)
    (h : r.feed index chunk = (after, .error fault)) (hfault : fault.isRefusal = false) :
  after.Spoiled fault
  := by
  have hstarted := filled_started hfilled index
  cases feeds_of_feed h with
  | refused _ _ => cases hfault
  | taken hstart _ htakes =>
      subst hstart
      cases htakes with
      | rejected hnone hsplit hhead =>
          exact ⟨hnone, filled_append hstarted chunk, _, _, hsplit, hhead⟩

theorem Spoiled.incomplete (h : r.Spoiled fault) :
  r.headComplete = false
  := by
  rw [headComplete, h.head_eq]
  rfl

/-- The same head is rejected again with each chunk that is taken in behind it. -/
theorem Spoiled.take (h : r.Spoiled fault) (chunk : Bytes) :
  r.take chunk = (r.append chunk, .error fault) ∧ (r.append chunk).Spoiled fault
  := by
  obtain ⟨hnone, hfilled, start, body, hsplit, hhead⟩ := h
  have hlater : Text.splitAtFirst Head.terminator (r.append chunk).front
      = some (start, body ++ chunk) := by
    rw [front_append hfilled]
    apply Text.splitAtFirst_append hsplit
  have hnone : (r.append chunk).head = none := hnone
  refine ⟨?_, hnone, filled_append hfilled chunk, start, body ++ chunk, hlater, hhead⟩
  unfold Reception.take
  dsimp only
  rw [hnone, hlater]
  dsimp only
  rw [hhead]

/-- A reception that is spoiled stays so, whatever chunks follow. -/
theorem Spoiled.run {moves : List Move} (h : r.Spoiled fault)
    (hmoves : ∀ move ∈ moves, ∃ index chunk, move = .feed index chunk ∧ index ≠ 0) :
  (r.run moves).1.Spoiled fault
    ∧ ∀ answer ∈ (r.run moves).2, answer = .error fault
      ∨ ∃ capacity required, answer = .error (.bufferTooSmall capacity required)
  := by
  induction moves generalizing r with
  | nil => exact ⟨h, List.forall_mem_nil _⟩
  | cons move moves ih =>
      obtain ⟨⟨index, chunk, rfl, hindex⟩, hrest⟩ := List.forall_mem_cons.mp hmoves
      rw [Reception.run]
      by_cases hlong : r.buffer.capacity < r.held + chunk.length
      · rw [feed_refused hindex hlong]
        obtain ⟨hspoiled, hanswers⟩ := ih h hrest
        exact ⟨hspoiled, List.forall_mem_cons.mpr ⟨.inr ⟨_, _, rfl⟩, hanswers⟩⟩
      · obtain ⟨htake, hlater⟩ := h.take chunk
        have hfeed : r.feed index chunk = (r.append chunk, .error fault) := by
          rw [← htake, feed, if_neg hindex]
          exact if_neg hlong
        rw [hfeed]
        obtain ⟨hspoiled, hanswers⟩ := ih hlater hrest
        exact ⟨hspoiled, List.forall_mem_cons.mpr ⟨.inl rfl, hanswers⟩⟩

/-! ### All faults -/

/-- Whatever has been fed to a new reception and drained from it:
* a chunk of a started response is refused exactly if it does not fit behind the held bytes; that
  changes nothing, and all that follows is as if it had not been fed;
* once a head has been rejected, each further chunk of the response is answered with the same fault
  or refused, and the head stays incomplete;
* the first chunk of a response comes to what it comes to in a new reception, with any buffer of
  the same size. -/
theorem run_faults (delivery : Delivery) (buffer : Buffer) (moves : List Move) :
  let r := (run { delivery, buffer } moves).1
  (∀ (index : Nat) (chunk : Bytes), index ≠ 0 →
    ((∃ capacity required, (r.feed index chunk).2 = .error (.bufferTooSmall capacity required))
      ↔ buffer.capacity < r.held + chunk.length)
    ∧ (buffer.capacity < r.held + chunk.length →
      let refusal := .error (.bufferTooSmall buffer.capacity (r.held + chunk.length))
      r.feed index chunk = (r, refusal)
        ∧ ∀ later, r.run (.feed index chunk :: later)
          = ((r.run later).1, refusal :: (r.run later).2)))
  ∧ (∀ (index : Nat) (chunk : Bytes) (after : Reception) (fault : ProtocolFault),
    r.feed index chunk = (after, .error fault) → fault.isRefusal = false →
    after.headComplete = false
      ∧ ∀ later : List Move,
        (∀ move ∈ later, ∃ index chunk, move = .feed index chunk ∧ index ≠ 0) →
        (after.run later).1.headComplete = false
          ∧ ∀ answer ∈ (after.run later).2, answer = .error fault
            ∨ ∃ capacity required, answer = .error (.bufferTooSmall capacity required))
  ∧ ∀ (used : Buffer) (chunk : Bytes), used.capacity = buffer.capacity →
    r.feed 0 chunk = feed { delivery, buffer := used } 0 chunk
  := by
  obtain ⟨hfilled, hdelivery, hcapacity⟩ :=
    run_keeps (r := { delivery, buffer }) (Nat.zero_le _) moves
  generalize (run { delivery, buffer } moves).1 = r at hfilled hdelivery hcapacity
  change r.delivery = delivery at hdelivery
  change r.buffer.capacity = buffer.capacity at hcapacity
  dsimp only
  rw [← hcapacity]
  refine ⟨fun index chunk hindex => ⟨feed_refused_iff hindex, fun hlong => ?_⟩, ?_, ?_⟩
  · have hfeed := feed_refused hindex hlong
    refine ⟨hfeed, fun later => ?_⟩
    rw [run, hfeed]
  · intro index chunk after fault hfeed hfault
    have hspoiled := spoiled_of_feed hfilled hfeed hfault
    refine ⟨hspoiled.incomplete, fun later hlater => ?_⟩
    obtain ⟨hstays, hanswers⟩ := hspoiled.run hlater
    exact ⟨hstays.incomplete, hanswers⟩
  · intro used chunk hused
    have hrestart : r.restart = restart { delivery, buffer := used } := by
      rw [restart, restart, Buffer.clear, Buffer.clear, hdelivery, hused]
    unfold feed
    rw [if_pos rfl, if_pos rfl, hrestart]

/-- After a byte that was fed and drained, the head of a file that is not there spoils the
reception, and no chunk of the same response mends it. -/
theorem run_faults_sample :
  let r := (run { delivery := .streamed, buffer := ⟨24, [1, 2, 3], 7⟩ } [.feed 3 [65], .drain]).1
  let fed := r.feed 0 (utf8 "HTTP/1.1 404 \r\n\r\n")
  fed.2 = .error (.nonOkStatus 404)
    ∧ fed.1.run [.feed 1 [65], .feed 2 (List.replicate 7 66)]
      = (fed.1.append [65], [.error (.nonOkStatus 404), .error (.bufferTooSmall 24 25)])
    ∧ ∀ later : List Move, (∀ move ∈ later, ∃ index chunk, move = .feed index chunk ∧ index ≠ 0) →
      (fed.1.run later).1.headComplete = false
  := by
  intro r fed
  have hanswer : fed.2 = .error (.nonOkStatus 404) := by decide +kernel
  refine ⟨hanswer, by decide +kernel, fun later hlater => ?_⟩
  obtain ⟨-, hrejected, -⟩ := run_faults .streamed ⟨24, [1, 2, 3], 7⟩ [.feed 3 [65], .drain]
  obtain ⟨-, hstays⟩ := hrejected 0 _ fed.1 (.nonOkStatus 404) (Prod.ext rfl hanswer) rfl
  exact (hstays later hlater).1

end FirmwareUpdate.Reception
