import FirmwareUpdate.Http.Reception
import FirmwareUpdate.Proofs.Text.Split

/-!
# What receptions know

A reception follows the bytes that it has taken in: it knows the head that they start with and
the number of bytes after it, and holds what it has not handed out yet. None of this depends on
how the bytes were cut into chunks.
-/

namespace FirmwareUpdate

/-- The head that bytes start with, if it is accepted, and the bytes that follow it. -/
def response? (bytes : Bytes) : Option (Head × Bytes) :=
  match Text.splitAtFirst Head.terminator bytes with
  | none => none
  | some (start, body) =>
    match Head.ofBytes start with
    | .error _ => none
    | .ok head => some (head, body)

/-- More bytes belong to the body of a response. -/
theorem response?_append {bytes body : Bytes} {head : Head}
    (h : response? bytes = some (head, body)) (more : Bytes) :
  response? (bytes ++ more) = some (head, body ++ more)
  := by
  unfold response? at h
  split at h
  case h_1 => cases h
  case h_2 start body hsplit =>
    split at h
    case h_1 => cases h
    case h_2 head hhead =>
      obtain ⟨rfl, rfl⟩ := Prod.mk.inj (Option.some.inj h)
      unfold response?
      rw [Text.splitAtFirst_append hsplit more]
      dsimp only
      rw [hhead]

/-- Whether a fault says that a chunk did not fit. -/
def ProtocolFault.isRefusal : ProtocolFault → Bool
  | .bufferTooSmall _ _ => true
  | _ => false

/-- A head is never too long for its reader. -/
theorem Head.isRefusal_of_ofBytes {bytes : Bytes} {fault : ProtocolFault}
    (h : ofBytes bytes = .error fault) :
  fault.isRefusal = false
  := by
  unfold ofBytes ofText at h
  split at h
  · cases h
    rfl
  · split at h
    · cases h
      rfl
    · split at h
      · cases h
        rfl
      · split at h
        · cases h
          rfl
        · split at h
          · cases h
            rfl
          · cases h

namespace Reception

variable {r after : Reception} {taken body chunk : Bytes}

/-- What can come of a chunk that fits behind the held bytes: it belongs to the body, or it leaves
the head unfinished, or it completes a head, which is rejected or accepted. -/
inductive Takes (r : Reception) (chunk : Bytes) : Reception → Except ProtocolFault Feed → Prop
  | body {head : Head} {after : Reception} :
      r.head = some head →
      after = { r.append chunk with received := r.received + chunk.length } →
      r.Takes chunk after (.ok (after.offer head))
  | unfinished :
      r.head = none →
      Text.splitAtFirst Head.terminator (r.append chunk).front = none →
      r.Takes chunk (r.append chunk) (.ok .needMore)
  | rejected {start body : Bytes} {fault : ProtocolFault} :
      r.head = none →
      Text.splitAtFirst Head.terminator (r.append chunk).front = some (start, body) →
      Head.ofBytes start = .error fault →
      r.Takes chunk (r.append chunk) (.error fault)
  | accepted {start body : Bytes} {head : Head} {after : Reception} :
      r.head = none →
      Text.splitAtFirst Head.terminator (r.append chunk).front = some (start, body) →
      Head.ofBytes start = .ok head →
      after = (r.append chunk).enterBody head body →
      r.Takes chunk after (.ok (after.offer head))

theorem takes_of_take {answer : Except ProtocolFault Feed} (h : r.take chunk = (after, answer)) :
  r.Takes chunk after answer
  := by
  unfold take at h
  dsimp only at h
  split at h
  case h_1 head hhead =>
    obtain ⟨rfl, rfl⟩ := Prod.mk.inj h
    exact .body hhead rfl
  case h_2 hnone =>
    split at h
    case h_1 hsplit =>
      obtain ⟨rfl, rfl⟩ := Prod.mk.inj h
      exact .unfinished hnone hsplit
    case h_2 hsplit =>
      split at h
      case h_1 hfault =>
        obtain ⟨rfl, rfl⟩ := Prod.mk.inj h
        exact .rejected hnone hsplit hfault
      case h_2 hok =>
        obtain ⟨rfl, rfl⟩ := Prod.mk.inj h
        exact .accepted hnone hsplit hok rfl

/-- What can come of a chunk: it is refused because it does not fit, or it is taken in. The first
chunk of a response finds the reception as it was before any. -/
inductive Feeds (r : Reception) (index : Nat) (chunk : Bytes) :
    Reception → Except ProtocolFault Feed → Prop
  | refused {start : Reception} :
      start = (if index = 0 then r.restart else r) →
      start.buffer.capacity < start.held + chunk.length →
      r.Feeds index chunk start
        (.error (.bufferTooSmall start.buffer.capacity (start.held + chunk.length)))
  | taken {start after : Reception} {answer : Except ProtocolFault Feed} :
      start = (if index = 0 then r.restart else r) →
      start.held + chunk.length ≤ start.buffer.capacity →
      start.Takes chunk after answer →
      r.Feeds index chunk after answer

theorem feeds_of_feed {index : Nat} {answer : Except ProtocolFault Feed}
    (h : r.feed index chunk = (after, answer)) :
  r.Feeds index chunk after answer
  := by
  unfold feed at h
  dsimp only at h
  generalize hstart : (if index = 0 then r.restart else r) = start at h
  split at h
  case isTrue hlong =>
    obtain ⟨rfl, rfl⟩ := Prod.mk.inj h
    exact .refused hstart.symm hlong
  case isFalse hfits => exact .taken hstart.symm (Nat.le_of_not_lt hfits) (takes_of_take h)

theorem length_front (h : r.held ≤ r.buffer.front.length) :
  r.front.length = r.held
  := List.length_take_of_le h

/-- A chunk goes behind the bytes that are held. -/
theorem front_append (h : r.held ≤ r.buffer.front.length) (chunk : Bytes) :
  (r.append chunk).front = r.front ++ chunk
  := by
  have hlength : (r.buffer.front.take r.held ++ chunk).length = r.held + chunk.length := by
    rw [List.length_append, List.length_take_of_le h]
  unfold front append Buffer.write
  dsimp only
  rw [← hlength, List.take_left]

theorem filled_append (h : r.held ≤ r.buffer.front.length) (chunk : Bytes) :
  (r.append chunk).held ≤ (r.append chunk).buffer.front.length
  := by
  simp only [append, Buffer.write, List.length_append, List.length_take_of_le h]
  omega

theorem filled_enterBody (r : Reception) (head : Head) (body : Bytes) :
  (r.enterBody head body).held ≤ (r.enterBody head body).buffer.front.length
  := by
  simp [enterBody, Buffer.write]

theorem front_enterBody (r : Reception) (head : Head) (body : Bytes) :
  (r.enterBody head body).front = body
  := by
  simp [front, enterBody, Buffer.write]

/-- A reception has taken in `taken`, and `body` of it has followed the head and been handed
out. As long as that is nothing, all that was taken in has fitted into the buffer. -/
structure Follows (r : Reception) (taken body : Bytes) : Prop where
  response_eq : response? taken = r.head.map (·, body)
  received_eq : r.received = body.length
  body_eq : r.head = none → body = []
  fits : body = [] → taken.length ≤ r.buffer.capacity

/-- A reception waits for a chunk: it holds the bytes of an unfinished head, or nothing. -/
structure Awaits (r : Reception) (taken body : Bytes) : Prop extends r.Follows taken body where
  filled : r.held ≤ r.buffer.front.length
  front_eq : r.front = if r.head.isSome then [] else taken

/-- What comes of a chunk after `taken`. One that does not fit is left out; one with which a
bad head has arrived is taken in, but not handed out. -/
def Fed (taken body chunk : Bytes) (after : Reception) : Except ProtocolFault Feed → Prop
  | .error fault =>
    fault.isRefusal = true ∧ after.Follows taken body
        ∧ after.buffer.capacity < (taken ++ chunk).length
      ∨ fault.isRefusal = false ∧ after.Follows (taken ++ chunk) body ∧ after.head = none
  | .ok .needMore => after.Awaits (taken ++ chunk) body
  | .ok (.body _) =>
    after.Follows (taken ++ chunk) (body ++ after.front) ∧ after.front ≠ []
      ∧ after.head.isSome = true

theorem offer_streamed (hstreamed : r.delivery = .streamed) (head : Head) :
  r.offer head = if 0 < r.held then .body r.held else .needMore
  := by
  simp [offer, hstreamed]

/-- The bytes that are held are some of those that were taken in. -/
theorem Awaits.held_le (h : r.Awaits taken body) :
  r.held ≤ taken.length
  := by
  rw [← length_front h.filled, h.front_eq]
  split <;> simp

/-- A chunk that fits after a head belongs to the body as a whole. -/
theorem take_body (hstreamed : r.delivery = .streamed) (h : r.Awaits taken body)
    (hne : chunk ≠ []) {head : Head} (hhead : r.head = some head) :
  Fed taken body chunk (r.take chunk).1 (r.take chunk).2
  := by
  have hpos : 0 < chunk.length := List.length_pos_iff.mpr hne
  have happended : (r.append chunk).front = chunk := by
    rw [front_append h.filled, h.front_eq, hhead]
    rfl
  obtain ⟨after, htake, hafter, hreceived, hfront⟩ : ∃ after,
      r.take chunk = (after, .ok (.body (r.held + chunk.length))) ∧ after.head = some head
        ∧ after.received = r.received + chunk.length ∧ after.front = chunk := by
    refine ⟨{ r.append chunk with received := r.received + chunk.length }, ?_, hhead, rfl,
      happended⟩
    have hheld : 0 < (r.append chunk).held := by
      simp only [append]
      omega
    simp only [take, append, hhead, offer, hstreamed] at hheld ⊢
    rw [if_pos (by simpa using hheld)]
  rw [htake]
  refine ⟨⟨?_, ?_, ?_, ?_⟩, ?_, ?_⟩
  · have hresponse := h.response_eq
    rw [hhead] at hresponse
    rw [hafter, hfront]
    apply response?_append hresponse
  · rw [hreceived, hfront, List.length_append, h.received_eq]
  · rw [hafter]
    rintro ⟨⟩
  · rw [hfront]
    intro hempty
    apply absurd (List.append_eq_nil_iff.mp hempty).2 hne
  · rw [hfront]
    apply hne
  · rw [hafter]
    rfl

/-- A chunk that fits and is not after a head may complete the head, which is then read. -/
theorem take_head (hstreamed : r.delivery = .streamed) (h : r.Awaits taken body)
    (hfits : r.held + chunk.length ≤ r.buffer.capacity) (hhead : r.head = none) :
  Fed taken body chunk (r.take chunk).1 (r.take chunk).2
  := by
  have hbody : body = [] := h.body_eq hhead
  subst hbody
  have hheld : r.front = taken := by
    rw [h.front_eq, hhead]
    rfl
  have hfront : (r.append chunk).front = taken ++ chunk := by
    rw [front_append h.filled, hheld]
  have hlength : (taken ++ chunk).length ≤ r.buffer.capacity := by
    rw [List.length_append, ← hheld, length_front h.filled]
    apply hfits
  unfold take
  dsimp only
  rw [show (r.append chunk).head = none from hhead]
  dsimp only
  split
  case h_1 hsplit =>
    have hnone : response? (taken ++ chunk) = none := by
      rw [response?, ← hfront, hsplit]
    refine ⟨⟨?_, h.received_eq, fun _ => rfl, fun _ => hlength⟩, filled_append h.filled chunk, ?_⟩
    · rw [hnone, show (r.append chunk).head = none from hhead]
      rfl
    · rw [hfront, show (r.append chunk).head = none from hhead]
      rfl
  case h_2 start rest hsplit =>
    split
    case h_1 fault hfault =>
      have hnone : response? (taken ++ chunk) = none := by
        rw [response?, ← hfront, hsplit]
        dsimp only
        rw [hfault]
      right
      refine ⟨Head.isRefusal_of_ofBytes hfault,
        ⟨?_, h.received_eq, fun _ => rfl, fun _ => hlength⟩, hhead⟩
      rw [hnone, show (r.append chunk).head = none from hhead]
      rfl
    case h_2 head hok =>
      have hsome : response? (taken ++ chunk) = some (head, rest) := by
        rw [response?, ← hfront, hsplit]
        dsimp only
        rw [hok]
      have hentered := front_enterBody (r.append chunk) head rest
      rw [offer_streamed (by apply hstreamed)]
      split
      case isTrue hpos =>
        refine ⟨⟨?_, ?_, ?_, fun _ => hlength⟩, ?_, rfl⟩
        · rw [hsome, hentered]
          rfl
        · rw [hentered]
          rfl
        · rintro ⟨⟩
        · rw [hentered]
          apply List.length_pos_iff.mp hpos
      case isFalse hzero =>
        have hrest : rest = [] := by
          apply List.length_eq_zero_iff.mp
          apply Nat.eq_zero_of_not_pos hzero
        subst hrest
        refine ⟨⟨?_, rfl, ?_, fun _ => hlength⟩, filled_enterBody _ head [], hentered⟩
        · rw [hsome]
          rfl
        · rintro ⟨⟩

/-- What comes of a chunk that is fed to a waiting reception. The first one starts anew. -/
theorem feed_fed (index : Nat) (hstreamed : r.delivery = .streamed)
    (h : (if index = 0 then r.restart else r).Awaits taken body) (hne : chunk ≠ []) :
  Fed taken body chunk (r.feed index chunk).1 (r.feed index chunk).2
  := by
  generalize hstart : (if index = 0 then r.restart else r) = start at h
  have hdelivery : start.delivery = .streamed := by
    rw [← hstart]
    split <;> apply hstreamed
  unfold feed
  dsimp only
  rw [hstart]
  split
  case isTrue hlong =>
    left
    refine ⟨rfl, h.toFollows, ?_⟩
    dsimp only
    have := h.held_le
    rw [List.length_append]
    omega
  case isFalse hfits =>
    cases hhead : start.head with
    | none => apply take_head hdelivery h (Nat.le_of_not_lt hfits) hhead
    | some head => apply take_body hdelivery h hne hhead

/-- A chunk changes neither how the body is handed out nor the size of the buffer. -/
theorem feed_keeps (r : Reception) (index : Nat) (chunk : Bytes) :
  (r.feed index chunk).1.delivery = r.delivery
    ∧ (r.feed index chunk).1.buffer.capacity = r.buffer.capacity
  := by
  have hstarted : (if index = 0 then r.restart else r).delivery = r.delivery
      ∧ (if index = 0 then r.restart else r).buffer.capacity = r.buffer.capacity := by
    split
    · exact ⟨rfl, rfl⟩
    · exact ⟨rfl, rfl⟩
  rcases hfeed : r.feed index chunk with ⟨after, answer⟩
  cases feeds_of_feed hfeed with
  | refused hstart _ =>
      subst hstart
      exact hstarted
  | taken hstart _ htakes =>
      subst hstart
      cases htakes with
      | body _ hafter =>
          subst hafter
          exact hstarted
      | unfinished _ _ => exact hstarted
      | rejected _ _ _ => exact hstarted
      | accepted _ _ _ hafter =>
          subst hafter
          exact hstarted

/-- Nothing has been taken in before the first chunk. -/
theorem awaits_restart (r : Reception) :
  r.restart.Awaits [] []
  := ⟨⟨rfl, rfl, fun _ => rfl, fun _ => Nat.zero_le _⟩, Nat.le_refl _, rfl⟩

/-- A response that arrives in one chunk, together with bytes of its body. -/
theorem feed_response {capacity : Nat} {raw : Bytes} {head : Head}
    (hfits : raw.length ≤ capacity) (h : response? raw = some (head, body)) (hbody : body ≠ []) :
  ∃ after size, (start .streamed capacity).feed 0 raw = (after, .ok (.body size))
    ∧ after.head = some head ∧ after.front = body ∧ after.received = body.length
  := by
  have hne : raw ≠ [] := by
    rintro rfl
    cases h
  obtain ⟨-, hcapacity⟩ := feed_keeps (start .streamed capacity) 0 raw
  have hfed : Fed [] [] raw _ _ := feed_fed 0 rfl (awaits_restart (start .streamed capacity)) hne
  generalize (start .streamed capacity).feed 0 raw = fed at hfed hcapacity
  obtain ⟨after, outcome⟩ := fed
  dsimp only at hfed hcapacity
  rcases outcome with fault | _ | size
  · rcases hfed with ⟨-, -, hlong⟩ | ⟨-, hfollows, hnone⟩
    · rw [hcapacity] at hlong
      apply absurd hfits (Nat.not_le_of_lt hlong)
    · have hresponse := hfollows.response_eq
      rw [hnone, List.nil_append, h] at hresponse
      cases hresponse
  · have hresponse := hfed.response_eq
    rw [List.nil_append, h] at hresponse
    cases hhead : after.head with
    | none =>
        rw [hhead] at hresponse
        cases hresponse
    | some _ =>
        rw [hhead] at hresponse
        apply absurd (congrArg Prod.snd (Option.some.inj hresponse)) hbody
  · obtain ⟨hfollows, -, -⟩ := hfed
    have hresponse := hfollows.response_eq
    rw [List.nil_append, h] at hresponse
    obtain ⟨other, hhead, heq⟩ := Option.map_eq_some_iff.mp hresponse.symm
    obtain ⟨rfl, hfront⟩ := Prod.mk.inj heq
    refine ⟨after, size, rfl, hhead, hfront, ?_⟩
    rw [← hfront, hfollows.received_eq]

end Reception

end FirmwareUpdate
