import FirmwareUpdate.Proofs.Http.Reception

/-!
# Feeding a response

A reception that is fed the chunks of a response, one after the other, parses the response: as
long as no chunk is refused for its length, what the reception knows and what comes of a chunk
depend on the bytes taken in so far, and not on where they were cut.

The state is described by the bytes alone (`Parsed`), and so is what comes of a chunk (`reply`).
A chunk takes one such state to the next (`feed_parsed`), and a whole response is parsed by
induction on its chunks (`feedAll_parsed`).
-/

namespace FirmwareUpdate

/-- What of a body is among the bytes of a response. -/
def bodyOf (bytes : Bytes) : Bytes :=
  ((response? bytes).map Prod.snd).getD []

theorem bodyOf_of_response {bytes body : Bytes} {head : Head}
    (h : response? bytes = some (head, body)) :
  bodyOf bytes = body
  := by
  rw [bodyOf, h]
  rfl

theorem bodyOf_of_none {bytes : Bytes} (h : response? bytes = none) :
  bodyOf bytes = []
  := by
  rw [bodyOf, h]
  rfl

theorem response?_eq_some_iff {bytes body : Bytes} {head : Head} :
  response? bytes = some (head, body)
    ↔ ∃ start, Text.splitAtFirst Head.terminator bytes = some (start, body)
        ∧ Head.ofBytes start = .ok head
  := by
  constructor
  · intro h
    unfold response? at h
    split at h
    case h_1 => cases h
    case h_2 start rest hsplit =>
      split at h
      case h_1 => cases h
      case h_2 head hhead =>
        obtain ⟨rfl, rfl⟩ := Prod.mk.inj (Option.some.inj h)
        exact ⟨start, hsplit, hhead⟩
  · rintro ⟨start, hsplit, hhead⟩
    rw [response?, hsplit]
    dsimp only
    rw [hhead]

/-- More bytes of a response never shorten its body. -/
theorem bodyOf_starts (bytes more : Bytes) :
  bodyOf bytes <+: bodyOf (bytes ++ more)
  := by
  unfold bodyOf
  cases h : response? bytes with
  | none => apply List.nil_prefix
  | some response =>
      rw [response?_append h]
      apply List.prefix_append

/-- What came of a chunk: the answer, and the bytes that it handed out. -/
structure Reply where
  answer : Except ProtocolFault Feed
  handed : Bytes

/-- The reply while more chunks are needed. -/
def Reply.needMore : Reply :=
  ⟨.ok .needMore, []⟩

/-- Whether so many held bytes of a body are handed out. -/
def Delivery.isReady (delivery : Delivery) (head : Head) (held : Nat) : Bool :=
  match delivery with
  | .whole => head.contentLength.toNat ≤ held
  | .streamed => 0 < held

/-- The reply of a reception that holds the given bytes of a body. -/
def Reply.ofHeld (delivery : Delivery) (head : Head) (held : Bytes) : Reply :=
  if delivery.isReady head held.length then ⟨.ok (.body held.length), held⟩ else .needMore

/-- The reply to a chunk that follows the bytes `taken` of a response. -/
def reply (delivery : Delivery) (taken chunk : Bytes) : Reply :=
  match Text.splitAtFirst Head.terminator (taken ++ chunk) with
  | none => .needMore
  | some (start, body) =>
    match Head.ofBytes start with
    | .error fault => ⟨.error fault, []⟩
    | .ok head =>
      .ofHeld delivery head <| match delivery with
        | .whole => body
        | .streamed => body.drop (bodyOf taken).length

section

variable {delivery : Delivery} {taken chunk start body : Bytes} {head : Head}

theorem reply_of_none (h : Text.splitAtFirst Head.terminator (taken ++ chunk) = none) :
  reply delivery taken chunk = .needMore
  := by
  rw [reply, h]

theorem reply_of_error {fault : ProtocolFault}
    (h : Text.splitAtFirst Head.terminator (taken ++ chunk) = some (start, body))
    (hhead : Head.ofBytes start = .error fault) :
  reply delivery taken chunk = ⟨.error fault, []⟩
  := by
  rw [reply, h]
  dsimp only
  rw [hhead]

theorem reply_of_response (h : response? (taken ++ chunk) = some (head, body)) :
  reply delivery taken chunk
    = .ofHeld delivery head
        (match delivery with
          | .whole => body
          | .streamed => body.drop (bodyOf taken).length)
  := by
  obtain ⟨start, hsplit, hhead⟩ := response?_eq_some_iff.mp h
  rw [reply, hsplit]
  dsimp only
  rw [hhead]

end

/-- The replies to the chunks that follow the bytes `taken` of a response. -/
def replies (delivery : Delivery) (taken : Bytes) : List Bytes → List Reply
  | [] => []
  | chunk :: chunks => reply delivery taken chunk :: replies delivery (taken ++ chunk) chunks

namespace Reception

/-- The bytes at the front of the buffer that an answer hands out. -/
def handedOut (r : Reception) : Except ProtocolFault Feed → Bytes
  | .ok (.body size) => r.buffer.content.take size
  | _ => []

/-- The reception with which the next chunk is awaited: one that streams the body is drained
of what it has handed out. -/
def settle (r : Reception) : Except ProtocolFault Feed → Reception
  | .ok (.body _) =>
    match r.delivery with
    | .whole => r
    | .streamed => r.drain
  | _ => r

/-- The reception after chunks with consecutive indices, and what came of each of them. -/
def feedAll (r : Reception) (index : Nat) : List Bytes → Reception × List Reply
  | [] => (r, [])
  | chunk :: chunks =>
    let (after, answer) := r.feed index chunk
    let (last, replies) := (after.settle answer).feedAll (index + 1) chunks
    (last, ⟨answer, after.handedOut answer⟩ :: replies)

/-- What a reception knows and holds after the bytes `taken` of a response, once it awaits the
next chunk. -/
structure Parsed (r : Reception) (taken : Bytes) : Prop where
  filled : r.held ≤ r.buffer.front.length
  head_eq : r.head = (response? taken).map Prod.fst
  received_eq : r.received = (bodyOf taken).length
  front_eq : r.front =
    match r.head, r.delivery with
    | none, _ => taken
    | some _, .whole => bodyOf taken
    | some _, .streamed => []

variable {r : Reception} {taken chunk : Bytes}

/-- A reception that is restarted has taken in nothing. -/
theorem parsed_restart (r : Reception) :
  r.restart.Parsed []
  := ⟨Nat.le_refl _, rfl, rfl, rfl⟩

/-- A reception that has taken in nothing may start anew. -/
theorem Parsed.started {index : Nat} (h : r.Parsed taken) (hindex : index = 0 → taken = []) :
  (if index = 0 then r.restart else r).Parsed taken
  := by
  split
  case isTrue hzero =>
    rw [hindex hzero]
    apply parsed_restart
  case isFalse => apply h

theorem content_take (h : r.held ≤ r.buffer.front.length) :
  r.buffer.content.take r.held = r.front
  := List.take_append_of_le_length h

/-- What comes of a chunk with which the head is known depends on the bytes that are held. -/
theorem offer_eq (h : r.held ≤ r.buffer.front.length) (head : Head) :
  (⟨.ok (r.offer head), r.handedOut (.ok (r.offer head))⟩ : Reply)
    = .ofHeld r.delivery head r.front
  := by
  have hoffer : r.offer head
      = if r.delivery.isReady head r.front.length then .body r.held else .needMore := by
    rw [length_front h]
    rfl
  have hhanded : r.handedOut (.ok (.body r.held)) = r.front := content_take h
  rw [hoffer, Reply.ofHeld]
  split
  · rw [hhanded, length_front h]
  · rfl

theorem held_of_offer {head : Head} {size : Nat} (h : r.offer head = .body size) :
  size = r.held
  := by
  unfold offer at h
  dsimp only at h
  split at h
  all_goals
    split at h
    · exact (Feed.body.inj h).symm
    · cases h

/-- After a chunk with which the head is known, the next one is awaited. -/
theorem parsed_settle {head : Head} (hhead : r.head = some head)
    (hfilled : r.held ≤ r.buffer.front.length)
    (hresponse : (response? taken).map Prod.fst = some head)
    (hreceived : r.received = (bodyOf taken).length)
    (hwhole : r.delivery = .whole → r.front = bodyOf taken) :
  (r.settle (.ok (r.offer head))).Parsed taken
  := by
  cases hdelivery : r.delivery with
  | whole =>
      have hsettle : r.settle (.ok (r.offer head)) = r := by
        unfold settle
        rw [hdelivery]
        split <;> rfl
      rw [hsettle]
      refine ⟨hfilled, by rw [hhead, hresponse], hreceived, ?_⟩
      rw [hhead, hdelivery]
      apply hwhole hdelivery
  | streamed =>
      have hsettle : r.settle (.ok (r.offer head)) = r.drain := by
        rw [offer_streamed hdelivery]
        split
        case isTrue => simp [settle, hdelivery]
        case isFalse hzero =>
          have hheld : r.held = 0 := Nat.eq_zero_of_not_pos hzero
          rw [settle, drain, ← hheld]
          simp
      rw [hsettle]
      refine ⟨Nat.zero_le _, hhead.trans hresponse.symm, hreceived, ?_⟩
      simp [drain, front, hhead, hdelivery]

/-- A chunk behind a head. -/
theorem take_parsed_body (h : r.Parsed taken) {head : Head} {body : Bytes}
    (hresponse : response? taken = some (head, body)) (chunk : Bytes) :
  ⟨(r.take chunk).2, (r.take chunk).1.handedOut (r.take chunk).2⟩ = reply r.delivery taken chunk
    ∧ ((r.take chunk).1.settle (r.take chunk).2).Parsed (taken ++ chunk)
  := by
  have hmore := response?_append hresponse chunk
  have hbody := bodyOf_of_response hresponse
  have hhead : r.head = some head := by
    rw [h.head_eq, hresponse]
    rfl
  obtain ⟨after, htake, hdelivery, hafter, hfilled, hreceived, hfront⟩ : ∃ after : Reception,
      r.take chunk = (after, .ok (after.offer head)) ∧ after.delivery = r.delivery
        ∧ after.head = some head ∧ after.held ≤ after.buffer.front.length
        ∧ after.received = r.received + chunk.length ∧ after.front = r.front ++ chunk := by
    refine ⟨{ r.append chunk with received := r.received + chunk.length }, ?_, rfl, hhead,
      filled_append h.filled chunk, rfl, front_append h.filled chunk⟩
    simp only [take, append, hhead]
  rw [h.front_eq, hhead, hbody] at hfront
  rw [htake]
  constructor
  · rw [offer_eq hfilled, reply_of_response hmore, hdelivery, hfront, hbody]
    cases r.delivery <;> simp
  · apply parsed_settle hafter hfilled
    · rw [hmore]
      rfl
    · rw [bodyOf_of_response hmore, hreceived, h.received_eq, hbody, List.length_append]
    · intro hwhole
      rw [hdelivery] at hwhole
      rw [hfront, hwhole, bodyOf_of_response hmore]

/-- A chunk behind bytes without an accepted head. -/
theorem take_parsed_head (h : r.Parsed taken) (hresponse : response? taken = none)
    (chunk : Bytes) :
  ⟨(r.take chunk).2, (r.take chunk).1.handedOut (r.take chunk).2⟩ = reply r.delivery taken chunk
    ∧ ((r.take chunk).1.settle (r.take chunk).2).Parsed (taken ++ chunk)
  := by
  have hbody := bodyOf_of_none hresponse
  have hhead : r.head = none := by
    rw [h.head_eq, hresponse]
    rfl
  have hfront : (r.append chunk).front = taken ++ chunk := by
    rw [front_append h.filled, h.front_eq, hhead]
  have hfilled := filled_append h.filled chunk
  -- As long as there is no head, all bytes are held.
  have hheld : response? (taken ++ chunk) = none → (r.append chunk).Parsed (taken ++ chunk) := by
    intro hnone
    refine ⟨hfilled, ?_, ?_, ?_⟩
    · rw [hnone]
      apply hhead
    · rw [bodyOf, hnone]
      apply h.received_eq.trans
      rw [hbody]
      rfl
    · rw [hfront, show (r.append chunk).head = none from hhead]
  unfold take
  dsimp only
  rw [show (r.append chunk).head = none from hhead, hfront]
  dsimp only
  cases hsplit : Text.splitAtFirst Head.terminator (taken ++ chunk) with
  | none =>
      use (reply_of_none hsplit).symm
      apply hheld
      rw [response?, hsplit]
  | some found =>
      obtain ⟨start, body⟩ := found
      dsimp only
      cases hparsed : Head.ofBytes start with
      | error fault =>
          use (reply_of_error hsplit hparsed).symm
          apply hheld
          rw [response?, hsplit]
          dsimp only
          rw [hparsed]
      | ok head =>
          dsimp only
          have hmore := response?_eq_some_iff.mpr ⟨start, hsplit, hparsed⟩
          have hentered := front_enterBody (r.append chunk) head body
          have hfilled := filled_enterBody (r.append chunk) head body
          constructor
          · rw [offer_eq hfilled, reply_of_response hmore, hentered, hbody]
            change Reply.ofHeld r.delivery head body = _
            cases r.delivery <;> rfl
          · apply parsed_settle rfl hfilled
            · rw [hmore]
              rfl
            · rw [bodyOf_of_response hmore]
              rfl
            · intro
              rw [hentered, bodyOf_of_response hmore]

/-- What is handed out is what is held. -/
theorem front_of_take (h : r.held ≤ r.buffer.front.length) {size : Nat}
    (hanswer : (r.take chunk).2 = .ok (.body size)) :
  (r.take chunk).1.front = (r.take chunk).1.handedOut (r.take chunk).2
  := by
  rw [hanswer]
  unfold take at hanswer ⊢
  dsimp only at hanswer ⊢
  split at hanswer
  case h_1 head hhead =>
    rw [held_of_offer (Except.ok.inj hanswer)]
    simp only [hhead]
    apply (content_take (filled_append h chunk)).symm
  case h_2 hhead =>
    split at hanswer
    case h_1 => cases hanswer
    case h_2 start body hsplit =>
      split at hanswer
      case h_1 => cases hanswer
      case h_2 head hparsed =>
        rw [held_of_offer (Except.ok.inj hanswer)]
        apply (content_take (filled_enterBody (r.append chunk) head body)).symm

/-- What comes of a chunk that is not refused, and what is known afterwards. The first chunk
starts anew. -/
theorem feed_parsed (index : Nat) (h : (if index = 0 then r.restart else r).Parsed taken)
    (hfits : ∀ capacity required,
      (r.feed index chunk).2 ≠ .error (.bufferTooSmall capacity required)) :
  ⟨(r.feed index chunk).2, (r.feed index chunk).1.handedOut (r.feed index chunk).2⟩
      = reply r.delivery taken chunk
    ∧ ((r.feed index chunk).1.settle (r.feed index chunk).2).Parsed (taken ++ chunk)
    ∧ ∀ size, (r.feed index chunk).2 = .ok (.body size) →
        (r.feed index chunk).1.front = (r.feed index chunk).1.handedOut (r.feed index chunk).2
  := by
  generalize hstart : (if index = 0 then r.restart else r) = start at h
  have hdelivery : start.delivery = r.delivery := by
    rw [← hstart]
    split <;> rfl
  have hfeed : r.feed index chunk = start.take chunk := by
    unfold feed at hfits ⊢
    dsimp only at hfits ⊢
    rw [hstart] at hfits ⊢
    split
    case isTrue hlong =>
      rw [if_pos hlong] at hfits
      apply absurd rfl (hfits _ _)
    case isFalse => rfl
  rw [hfeed, ← hdelivery, ← and_assoc]
  refine ⟨?_, fun size => front_of_take h.filled⟩
  cases hresponse : response? taken with
  | none => apply take_parsed_head h hresponse
  | some _ => apply take_parsed_body h hresponse

theorem delivery_settle (r : Reception) (answer : Except ProtocolFault Feed) :
  (r.settle answer).delivery = r.delivery
  := by
  unfold settle
  split
  · split <;> rfl
  · rfl

/-- What comes of chunks none of which is refused, and what is known afterwards. -/
theorem feedAll_parsed {index : Nat} {chunks : List Bytes} (h : r.Parsed taken)
    (hindex : index = 0 → taken = [])
    (hfits : ∀ reply ∈ (r.feedAll index chunks).2, ∀ capacity required,
      reply.answer ≠ .error (.bufferTooSmall capacity required)) :
  (r.feedAll index chunks).2 = replies r.delivery taken chunks
    ∧ (r.feedAll index chunks).1.Parsed (taken ++ chunks.flatten)
  := by
  induction chunks generalizing r index taken with
  | nil =>
      use rfl
      rw [List.flatten_nil, List.append_nil]
      apply h
  | cons chunk chunks ih =>
      simp only [feedAll, List.mem_cons, forall_eq_or_imp] at hfits ⊢
      obtain ⟨hreply, hnext, -⟩ := feed_parsed index (h.started hindex) hfits.1
      obtain ⟨hreplies, hlast⟩ := ih hnext (fun hzero => by cases hzero) hfits.2
      constructor
      · rw [hreply, hreplies, delivery_settle, (feed_keeps r index chunk).1, replies]
      · rw [List.flatten_cons, ← List.append_assoc]
        apply hlast

end Reception

/-! ### Replies to the chunks of a response -/

/-- The chunk with index `n` brings the last of the first `size` bytes. -/
def Completes (chunks : List Bytes) (size n : Nat) : Prop :=
  (chunks.take n).flatten.length < size ∧ size ≤ (chunks.take (n + 1)).flatten.length

theorem exists_completes {chunks : List Bytes} {size : Nat} (hpos : 0 < size)
    (hsize : size ≤ chunks.flatten.length) :
  ∃ n < chunks.length, Completes chunks size n
  := by
  induction chunks generalizing size with
  | nil =>
      rw [List.flatten_nil, List.length_nil] at hsize
      omega
  | cons chunk chunks ih =>
      rcases Nat.lt_or_ge chunk.length size with hlonger | hfirst
      · rw [List.flatten_cons, List.length_append] at hsize
        have hrest : size - chunk.length ≤ chunks.flatten.length := by omega
        obtain ⟨n, hn, hbefore, hafter⟩ := ih (Nat.sub_pos_of_lt hlonger) hrest
        refine ⟨n + 1, Nat.succ_lt_succ hn, ?_⟩
        rw [Completes, List.take_succ_cons, List.take_succ_cons, List.flatten_cons,
          List.flatten_cons, List.length_append, List.length_append]
        omega
      · use 0, Nat.succ_pos _, hpos
        simpa using hfirst

theorem flatten_take_starts (chunks : List Bytes) (n : Nat) :
  (chunks.take n).flatten <+: chunks.flatten
  := by
  use (chunks.drop n).flatten
  rw [← List.flatten_append, List.take_append_drop]

theorem length_flatten_take_mono (chunks : List Bytes) {m n : Nat} (h : m ≤ n) :
  (chunks.take m).flatten.length ≤ (chunks.take n).flatten.length
  := by
  have hstarts := flatten_take_starts (chunks.take n) m
  rw [List.take_take, Nat.min_eq_left h] at hstarts
  apply hstarts.length_le

theorem flatten_take_succ {chunks : List Bytes} {chunk : Bytes} {k : Nat}
    (h : chunks[k]? = some chunk) :
  (chunks.take k).flatten ++ chunk = (chunks.take (k + 1)).flatten
  := by
  rw [List.take_add_one, h, List.flatten_append]
  simp

theorem length_replies (delivery : Delivery) (taken : Bytes) (chunks : List Bytes) :
  (replies delivery taken chunks).length = chunks.length
  := by
  induction chunks generalizing taken with
  | nil => rfl
  | cons chunk chunks ih => rw [replies, List.length_cons, ih, List.length_cons]

theorem getElem?_replies (delivery : Delivery) (taken : Bytes) (chunks : List Bytes) (k : Nat) :
  (replies delivery taken chunks)[k]?
    = chunks[k]?.map (reply delivery (taken ++ (chunks.take k).flatten))
  := by
  induction chunks generalizing taken k with
  | nil => rfl
  | cons chunk chunks ih =>
      cases k with
      | zero => simp [replies]
      | succ k => simp [replies, ih]

theorem handed_ofHeld_streamed (head : Head) (held : Bytes) :
  (Reply.ofHeld .streamed head held).handed = held
  := by
  cases held <;> rfl

/-- Nothing is handed out as long as no head has been accepted. -/
theorem handed_reply_of_none {delivery : Delivery} {taken chunk : Bytes}
    (h : response? (taken ++ chunk) = none) :
  (reply delivery taken chunk).handed = []
  := by
  unfold response? at h
  unfold reply
  rcases hsplit : Text.splitAtFirst Head.terminator (taken ++ chunk) with _ | ⟨start, body⟩
  · rfl
  · rw [hsplit] at h
    dsimp only at h ⊢
    rcases hhead : Head.ofBytes start with fault | head
    · rfl
    · rw [hhead] at h
      cases h

/-- What a streamed chunk hands out continues the body. -/
theorem bodyOf_append_handed (taken chunk : Bytes) :
  bodyOf taken ++ (reply .streamed taken chunk).handed = bodyOf (taken ++ chunk)
  := by
  have hstarts := bodyOf_starts taken chunk
  cases hresponse : response? (taken ++ chunk) with
  | none =>
      have hbody := bodyOf_of_none hresponse
      rw [hbody] at hstarts ⊢
      rw [handed_reply_of_none hresponse, List.prefix_nil.mp hstarts, List.append_nil]
  | some response =>
      obtain ⟨head, body⟩ := response
      rw [bodyOf_of_response hresponse] at hstarts ⊢
      rw [reply_of_response hresponse, handed_ofHeld_streamed]
      apply List.prefix_iff_eq_append.mp hstarts

/-- What streamed chunks hand out, put together, continues the body. -/
theorem bodyOf_append_flatten_handed (taken : Bytes) (chunks : List Bytes) :
  bodyOf taken ++ ((replies .streamed taken chunks).map Reply.handed).flatten
    = bodyOf (taken ++ chunks.flatten)
  := by
  induction chunks generalizing taken with
  | nil => simp [replies]
  | cons chunk chunks ih =>
      rw [replies, List.map_cons, List.flatten_cons, ← List.append_assoc, bodyOf_append_handed,
        ih, List.flatten_cons, List.append_assoc]

/-- What comes of a chunk that follows others of the same response. -/
theorem replies_getElem {delivery : Delivery} {chunks : List Bytes} {k : Nat}
    (hk : k < chunks.length) :
  ∃ taken chunk, (replies delivery [] chunks)[k]? = some (reply delivery taken chunk)
    ∧ taken ++ chunk = (chunks.take (k + 1)).flatten
  := by
  have hchunk : chunks[k]? = some chunks[k] := List.getElem?_eq_getElem hk
  refine ⟨(chunks.take k).flatten, chunks[k], ?_, flatten_take_succ hchunk⟩
  rw [getElem?_replies, hchunk]
  rfl

/-- Without a terminator, more chunks are needed after each. -/
theorem answer_of_none {delivery : Delivery} {chunks : List Bytes}
    (h : ¬ Head.terminator <:+: chunks.flatten) {outcome : Reply}
    (houtcome : outcome ∈ replies delivery [] chunks) :
  outcome.answer = .ok .needMore
  := by
  obtain ⟨k, hk⟩ := List.mem_iff_getElem?.mp houtcome
  obtain ⟨chunk, hchunk, rfl⟩ :=
    Option.map_eq_some_iff.mp ((getElem?_replies _ _ _ k).symm.trans hk)
  have hnone : Text.splitAtFirst Head.terminator ((chunks.take k).flatten ++ chunk) = none := by
    rw [flatten_take_succ hchunk, Text.splitAtFirst_eq_none_iff]
    intro hoccurs
    apply h (hoccurs.trans (flatten_take_starts _ _).isInfix)
  rw [List.nil_append, reply_of_none hnone]
  rfl

section

variable {delivery : Delivery} {chunks : List Bytes} {start body : Bytes} {head : Head} {n k : Nat}

/-- Before the terminator has arrived, more chunks are needed. -/
theorem answer_before
    (hsplit : Text.splitAtFirst Head.terminator chunks.flatten = some (start, body))
    (hn : Completes chunks (start ++ Head.terminator).length n) (hk : k < n)
    (hlength : n < chunks.length) :
  (replies delivery [] chunks)[k]?.map Reply.answer = some (.ok .needMore)
  := by
  obtain ⟨taken, chunk, hreply, htaken⟩ := replies_getElem (Nat.lt_trans hk hlength)
  have hshort : Text.splitAtFirst Head.terminator (taken ++ chunk) = none := by
    rw [htaken]
    apply Text.splitAtFirst_of_prefix_of_lt (by decide) hsplit (flatten_take_starts _ _)
    apply Nat.lt_of_le_of_lt (length_flatten_take_mono chunks hk) hn.1
  rw [hreply, reply_of_none hshort]
  rfl

/-- Once the terminator has arrived, the bytes are those of the head, the terminator and the
body so far. -/
theorem split_after
    (hsplit : Text.splitAtFirst Head.terminator chunks.flatten = some (start, body))
    (hn : Completes chunks (start ++ Head.terminator).length n) (hk : n ≤ k) :
  Text.splitAtFirst Head.terminator (chunks.take (k + 1)).flatten
    = some (start, (chunks.take (k + 1)).flatten.drop (start ++ Head.terminator).length)
  := by
  apply Text.splitAtFirst_of_prefix_of_le (by decide) hsplit (flatten_take_starts _ _)
  apply Nat.le_trans hn.2 (length_flatten_take_mono chunks (Nat.succ_le_succ hk))

/-- A rejected head is the answer once its terminator has arrived. -/
theorem answer_rejected
    (hsplit : Text.splitAtFirst Head.terminator chunks.flatten = some (start, body))
    (hn : Completes chunks (start ++ Head.terminator).length n) (hk : n ≤ k)
    (hlength : k < chunks.length) {fault : ProtocolFault}
    (hfault : Head.ofBytes start = .error fault) :
  (replies delivery [] chunks)[k]?.map Reply.answer = some (.error fault)
  := by
  obtain ⟨taken, chunk, hreply, htaken⟩ := replies_getElem hlength
  have hcut := split_after hsplit hn hk
  rw [← htaken] at hcut
  rw [hreply, reply_of_error hcut hfault]
  rfl

/-- Once the terminator of an accepted head has arrived, a body that is handed out as a whole
is the answer as soon as its declared length is held. -/
theorem reply_accepted
    (hsplit : Text.splitAtFirst Head.terminator chunks.flatten = some (start, body))
    (hn : Completes chunks (start ++ Head.terminator).length n) (hk : n ≤ k)
    (hlength : k < chunks.length) (hhead : Head.ofBytes start = .ok head) :
  (replies .whole [] chunks)[k]?
    = some (.ofHeld .whole head
        ((chunks.take (k + 1)).flatten.drop (start ++ Head.terminator).length))
  := by
  obtain ⟨taken, chunk, hreply, htaken⟩ := replies_getElem hlength
  have hresponse := response?_eq_some_iff.mpr ⟨start, split_after hsplit hn hk, hhead⟩
  rw [← htaken] at hresponse ⊢
  rw [hreply, reply_of_response hresponse]

end

theorem answer_ofHeld_whole_iff {head : Head} {held : Bytes} {size : Nat} :
  (Reply.ofHeld .whole head held).answer = .ok (.body size)
    ↔ head.contentLength.toNat ≤ held.length ∧ size = held.length
  := by
  by_cases h : head.contentLength.toNat ≤ held.length
  · simp [Reply.ofHeld, Delivery.isReady, h, eq_comm]
  · simp [Reply.ofHeld, Delivery.isReady, h, Reply.needMore]

theorem handed_ofHeld_whole {head : Head} {held : Bytes}
    (h : head.contentLength.toNat ≤ held.length) :
  (Reply.ofHeld .whole head held).handed = held
  := by
  simp [Reply.ofHeld, Delivery.isReady, h]

/-- What chunks hand out of a body that is handed out as a whole. -/
theorem whole_iff {chunks : List Bytes} {start body : Bytes} {head : Head} {n k : Nat}
    {outcome : Reply}
    (hsplit : Text.splitAtFirst Head.terminator chunks.flatten = some (start, body))
    (hn : Completes chunks (start ++ Head.terminator).length n) (hlength : n < chunks.length)
    (hhead : Head.ofBytes start = .ok head)
    (houtcome : (replies .whole [] chunks)[k]? = some outcome) (size : Nat) :
  let held := (chunks.take (k + 1)).flatten.drop (start ++ Head.terminator).length
  (outcome.answer = .ok (.body size)
      ↔ n ≤ k ∧ head.contentLength.toNat ≤ held.length ∧ size = held.length)
    ∧ (outcome.answer = .ok (.body size) → outcome.handed = held)
  := by
  intro held
  rcases Nat.lt_or_ge k n with hbefore | hafter
  · have hanswer : (replies .whole [] chunks)[k]?.map Reply.answer = some (.ok .needMore) :=
      answer_before hsplit hn hbefore hlength
    rw [houtcome] at hanswer
    rw [Option.some.inj hanswer]
    constructor
    · constructor
      · rintro ⟨⟩
      · rintro ⟨hafter, -⟩
        omega
    · rintro ⟨⟩
  · obtain ⟨hk, -⟩ := List.getElem?_eq_some_iff.mp houtcome
    rw [length_replies] at hk
    have hreply := reply_accepted hsplit hn hafter hk hhead
    rw [houtcome] at hreply
    obtain rfl := Option.some.inj hreply
    rw [answer_ofHeld_whole_iff]
    constructor
    · exact ⟨fun h => ⟨hafter, h⟩, And.right⟩
    · rintro ⟨hheld, -⟩
      apply handed_ofHeld_whole hheld

/-- Feeding the chunks of a response to a new reception, none of which is refused for its
length, parses the response. As long as the terminator of the head has not arrived, more chunks
are needed. The bytes in front of the first terminator are read as the head. If it is rejected,
that is the answer to the chunk that brings the end of the terminator, and to all later ones; if
it is accepted, the reception knows it, counts the bytes of the body, and hands the body out: a
streamed one as it arrives, and a whole one with every chunk after which its declared length is
held. -/
theorem feedAll_parses {delivery : Delivery} {buffer : Buffer} {chunks : List Bytes}
    {last : Reception} {outcomes : List Reply}
    (hfeed : Reception.feedAll { delivery, buffer } 0 chunks = (last, outcomes))
    (hfits : ∀ outcome ∈ outcomes, ∀ capacity required,
      outcome.answer ≠ .error (.bufferTooSmall capacity required)) :
  outcomes.length = chunks.length
  ∧ (¬ Head.terminator <:+: chunks.flatten →
      (∀ outcome ∈ outcomes, outcome.answer = .ok .needMore) ∧ last.head = none)
  ∧ ∀ start body, chunks.flatten = start ++ Head.terminator ++ body →
      ¬ Head.terminator <:+: start ++ Head.terminator.dropLast →
      ∃ n < chunks.length, Completes chunks (start ++ Head.terminator).length n
        ∧ (∀ k < n, outcomes[k]?.map Reply.answer = some (.ok .needMore))
        ∧ match Head.ofBytes start with
          | .error fault =>
            last.head = none
              ∧ ∀ k, n ≤ k → k < chunks.length →
                  outcomes[k]?.map Reply.answer = some (.error fault)
          | .ok head =>
            last.head = some head ∧ last.received = body.length
              ∧ (last.bodyComplete = true ↔ head.contentLength.toNat ≤ body.length)
              ∧ match delivery with
                | .streamed => (outcomes.map Reply.handed).flatten = body
                | .whole =>
                  ∀ k outcome, outcomes[k]? = some outcome →
                    let held := (chunks.take (k + 1)).flatten.drop (start ++ Head.terminator).length
                    ∀ size, (outcome.answer = .ok (.body size)
                        ↔ n ≤ k ∧ head.contentLength.toNat ≤ held.length ∧ size = held.length)
                      ∧ (outcome.answer = .ok (.body size) → outcome.handed = held)
  := by
  have hnew : Reception.Parsed { delivery, buffer } [] := ⟨Nat.zero_le _, rfl, rfl, rfl⟩
  have hparsed := @Reception.feedAll_parsed _ [] 0 chunks hnew fun _ => rfl
  rw [hfeed] at hparsed
  obtain ⟨houtcomes, hlast⟩ := hparsed hfits
  rw [List.nil_append] at hlast
  dsimp only at houtcomes hlast
  subst houtcomes
  refine ⟨length_replies _ _ _, ?_, ?_⟩
  · intro hnone
    have hresponse : response? chunks.flatten = none := by
      rw [response?, Text.splitAtFirst_eq_none_iff.mpr hnone]
    use fun outcome => answer_of_none hnone
    rw [hlast.head_eq, hresponse]
    rfl
  · intro start body htext hfirst
    have hsplit := (Text.splitAtFirst_eq_some_iff (by decide)).mpr ⟨htext, hfirst⟩
    obtain ⟨n, hlength, hn⟩ : ∃ n < chunks.length,
        Completes chunks (start ++ Head.terminator).length n := by
      apply exists_completes
      · simp [Head.terminator]
      · rw [htext]
        apply (List.prefix_append _ _).length_le
    refine ⟨n, hlength, hn, fun k hk => answer_before hsplit hn hk hlength, ?_⟩
    cases hhead : Head.ofBytes start with
    | error fault =>
        have hresponse : response? chunks.flatten = none := by
          rw [response?, hsplit]
          dsimp only
          rw [hhead]
        refine ⟨?_, fun k hk hlength => answer_rejected hsplit hn hk hlength hhead⟩
        rw [hlast.head_eq, hresponse]
        rfl
    | ok head =>
        have hresponse := response?_eq_some_iff.mpr ⟨start, hsplit, hhead⟩
        have hbody := bodyOf_of_response hresponse
        have hknown : last.head = some head := by
          rw [hlast.head_eq, hresponse]
          rfl
        have hreceived : last.received = body.length := by
          rw [hlast.received_eq, hbody]
        refine ⟨hknown, hreceived, ?_, ?_⟩
        · simp [Reception.bodyComplete, hknown, hreceived]
        · cases delivery with
          | whole =>
              intro k outcome houtcome
              apply whole_iff hsplit hn hlength hhead houtcome
          | streamed =>
              have hhanded := bodyOf_append_flatten_handed [] chunks
              rw [List.nil_append, hbody] at hhanded
              apply hhanded

/-- What a sample response has in front of the terminator of its head. -/
def cutStart : Bytes :=
  utf8 "HTTP/1.1 200 OK\r\nContent-Length: 1"

/-- The sample response in two chunks, the second of which brings the end of the terminator. -/
def cutResponse : List Bytes :=
  [cutStart ++ [13, 10, 13], [10, 65]]

/-- The sample response is parsed, with its head and its body known from the second chunk on. -/
theorem feedAll_parses_sample :
  ∃ last outcomes n,
    Reception.feedAll { delivery := .whole, buffer := { capacity := 64 } } 0 cutResponse
      = (last, outcomes)
    ∧ Completes cutResponse (cutStart ++ Head.terminator).length n
    ∧ last.head = some ⟨1, 1, 200, 1⟩ ∧ last.received = 1 ∧ last.bodyComplete = true
  := by
  have houtcomes :
      (Reception.feedAll { delivery := .whole, buffer := { capacity := 64 } } 0 cutResponse).2
        = [⟨.ok .needMore, []⟩, ⟨.ok (.body 1), [65]⟩] := rfl
  have hhead : Head.ofBytes cutStart = .ok ⟨1, 1, 200, 1⟩ := by
    decide +kernel
  rcases hfeed : Reception.feedAll { delivery := .whole, buffer := { capacity := 64 } } 0
    cutResponse with ⟨last, outcomes⟩
  rw [hfeed] at houtcomes
  obtain rfl := houtcomes
  obtain ⟨-, -, hparsed⟩ := feedAll_parses hfeed (by simp)
  obtain ⟨n, -, hn, -, houtcome⟩ := hparsed cutStart [65] (by decide +kernel) (by decide +kernel)
  rw [hhead] at houtcome
  obtain ⟨hknown, hreceived, hcomplete, -⟩ := houtcome
  refine ⟨last, _, n, rfl, hn, hknown, hreceived, hcomplete.mpr ?_⟩
  decide

end FirmwareUpdate
