import FirmwareUpdate.Proofs.Http.Reads
import FirmwareUpdate.Proofs.Http.Reception

/-!
# What streams hand out

A stream hands out all the bytes that follow the head in the chunks that it takes in, and no
others. So what it hands out is what the head declares as long as no chunk goes beyond that, and
only then.
-/

namespace FirmwareUpdate.Client

variable {σ : Type} {t : Transport σ}

/-- What a stream answers to a call of `next`. -/
abbrev Answer := Except Fault (Option Fragment)

/-- The bytes that a stream hands out with an answer. -/
def given : Answer → Bytes
  | .ok (some (.data bytes)) => bytes
  | _ => []

/-- Whether a stream has refused a chunk that did not fit. -/
def isRefusal : Answer → Bool
  | .error (.protocol fault) => fault.isRefusal
  | _ => false

/-- The bytes that a stream has handed out with its answers. -/
def handed (answers : List Answer) : Bytes :=
  answers.flatMap given

/-- Whether a stream has refused a chunk with one of its answers. -/
def refused (answers : List Answer) : Bool :=
  answers.any isRefusal

/-- The bytes that a stream has taken in. After a chunk that was refused it reads no more. -/
def taken (answers : List Answer) (chunks : List Bytes) : Bytes :=
  arrived (if refused answers then chunks.tail else chunks)

/-- Whether a stream has handed out what the response declares: the start of as many bytes as
the head tells, and all of them when it has finished. -/
def AsDeclared (answers : List Answer) (bytes : Bytes) : Prop :=
  match response? bytes with
  | none => handed answers = [] ∧ .ok (some .finished) ∉ answers
  | some (head, body) =>
    handed answers <+: body.take head.contentLength.toNat
      ∧ (.ok (some .finished) ∈ answers →
          handed answers = body.take head.contentLength.toNat
            ∧ head.contentLength.toNat ≤ body.length)

section

variable {answers : List Answer} {chunks : List Bytes}

theorem handed_snoc (answers : List Answer) (answer : Answer) :
  handed (answers ++ [answer]) = handed answers ++ given answer
  := by
  simp [handed]

theorem given_of_quiet {answer : Answer} (h : ∀ bytes, answer ≠ .ok (some (.data bytes))) :
  given answer = []
  := by
  unfold given
  split
  case h_1 bytes => apply absurd rfl (h bytes)
  case h_2 => rfl

theorem refused_snoc (answers : List Answer) (answer : Answer) :
  refused (answers ++ [answer]) = (refused answers || isRefusal answer)
  := by
  simp [refused]

theorem taken_of_unrefused (h : refused answers = false) (chunks : List Bytes) :
  taken answers chunks = arrived chunks
  := by
  rw [taken, h]
  rfl

/-- What has been taken in is the start of what has arrived. -/
theorem taken_start (answers : List Answer) (chunks : List Bytes) :
  taken answers chunks <+: arrived chunks
  := by
  unfold taken
  split
  · cases chunks with
    | nil => apply List.prefix_refl
    | cons chunk chunks =>
        rw [arrived_cons]
        apply List.prefix_append
  · apply List.prefix_refl

end

/-! ### The states of a stream -/

namespace Stream

variable {capacity : Nat} {answers : List Answer}
  {answer : Answer} {chunks later : List Bytes} {stream : Stream}

/-- What holds of a stream whatever it has answered. As long as its connection is there, it has
handed out data only. -/
structure Tracks (stream : Stream) (capacity : Nat)
    (answers : List Answer) (chunks : List Bytes) : Prop where
  streamed : stream.reception.delivery = .streamed
  capacity_eq : stream.reception.buffer.capacity = capacity
  follows : stream.reception.Follows (taken answers chunks) (handed answers)
  finished_complete : .ok (some .finished) ∈ answers →
    refused answers = false ∧ stream.reception.bodyComplete = true
  failed_incomplete : ∀ fault, .error fault ∈ answers → refused answers = false →
    stream.reception.bodyComplete = false
  refused_long : refused answers = true → capacity < (arrived chunks).length
  data_ne : .ok (some (.data [])) ∉ answers
  healthy : stream.session.isConnected = true →
    ∀ answer ∈ answers, ∃ bytes, answer = .ok (some (.data bytes))

/-- A stream between two calls of `next`. If it is connected, nothing has happened yet, or what
was handed out last is still in the buffer. -/
structure Rests (stream : Stream) (capacity : Nat)
    (answers : List Answer) (chunks : List Bytes) : Prop
    extends stream.Tracks capacity answers chunks where
  fresh : stream.session.isConnected = true → stream.isDelivered = false →
    stream.index = 0 ∧ stream.reception.head = none ∧ answers = [] ∧ chunks = []
  delivered : stream.isDelivered = true →
    stream.session.isConnected = true ∧ stream.index ≠ 0 ∧ stream.reception.head.isSome = true

/-- A stream that is about to read a chunk, if it is connected. -/
structure Reading (stream : Stream) (capacity : Nat)
    (answers : List Answer) (chunks : List Bytes) : Prop
    extends stream.Tracks capacity answers chunks where
  undelivered : stream.isDelivered = false
  incomplete : stream.session.isConnected = true → stream.reception.bodyComplete = false
  awaits : stream.session.isConnected = true →
    (if stream.index = 0 then stream.reception.restart else stream.reception).Awaits
      (taken answers chunks) (handed answers)

theorem bodyComplete_iff {r : Reception} {head : Head} (hhead : r.head = some head) :
  r.bodyComplete = true ↔ head.contentLength.toNat ≤ r.received
  := by
  simp [Reception.bodyComplete, hhead]

theorem bodyComplete_of_none {r : Reception} (hhead : r.head = none) :
  r.bodyComplete = false
  := by
  simp [Reception.bodyComplete, hhead]

/-- A stream that has handed out data only has refused nothing. -/
theorem Tracks.unrefused (h : stream.Tracks capacity answers chunks)
    (hconnected : stream.session.isConnected = true) :
  refused answers = false
  := by
  rw [refused, List.any_eq_false]
  intro answer hanswer
  obtain ⟨bytes, rfl⟩ := h.healthy hconnected answer hanswer
  simp [isRefusal]

/-- A stream that has refused nothing and has all of the body has handed out what follows the
head. -/
theorem Tracks.whole (h : stream.Tracks capacity answers chunks)
    (hunrefused : refused answers = false) (hcomplete : stream.reception.bodyComplete = true) :
  ∃ head, response? (arrived chunks) = some (head, handed answers)
    ∧ head.contentLength.toNat ≤ (handed answers).length
  := by
  have hresponse := h.follows.response_eq
  rw [taken_of_unrefused hunrefused] at hresponse
  cases hhead : stream.reception.head with
  | none =>
      rw [bodyComplete_of_none hhead] at hcomplete
      cases hcomplete
  | some head =>
      rw [hhead] at hresponse
      rw [bodyComplete_iff hhead, h.follows.received_eq] at hcomplete
      exact ⟨head, hresponse, hcomplete⟩

/-! ### Streams and declared lengths -/

/-- What a stream has handed out is as the head declares exactly if the chunks that it has taken
in have not gone beyond that. -/
theorem Tracks.asDeclared_iff (h : stream.Tracks capacity answers chunks) :
  AsDeclared answers (arrived chunks)
    ↔ ∀ head body, response? (taken answers chunks) = some (head, body) →
        body.length ≤ head.contentLength.toNat
  := by
  have hresponse := h.follows.response_eq
  obtain ⟨more, hmore⟩ := taken_start answers chunks
  cases hhead : stream.reception.head with
  | none =>
      rw [hhead] at hresponse
      have hempty : handed answers = [] := h.follows.body_eq hhead
      have hunfinished : .ok (some .finished) ∉ answers := by
        intro hfinished
        obtain ⟨-, hcomplete⟩ := h.finished_complete hfinished
        rw [bodyComplete_of_none hhead] at hcomplete
        cases hcomplete
      constructor
      · intro _ head body heq
        rw [hresponse] at heq
        cases heq
      · intro _
        unfold AsDeclared
        split
        · use hempty
        · rw [hempty]
          use List.nil_prefix
          intro hfinished
          apply absurd hfinished hunfinished
  | some head =>
      rw [hhead, Option.map_some] at hresponse
      have harrived := response?_append hresponse more
      rw [hmore] at harrived
      rw [AsDeclared, harrived, hresponse]
      dsimp only
      constructor
      · rintro ⟨hstart, -⟩ _ _ heq
        obtain ⟨rfl, rfl⟩ := Prod.mk.inj (Option.some.inj heq)
        apply Nat.le_trans hstart.length_le
        rw [List.length_take]
        apply Nat.min_le_left
      · intro hwithin
        specialize hwithin head (handed answers) rfl
        constructor
        · rw [List.prefix_take_iff]
          use List.prefix_append _ _
        · intro hfinished
          obtain ⟨hunrefused, hcomplete⟩ := h.finished_complete hfinished
          rw [bodyComplete_iff hhead, h.follows.received_eq] at hcomplete
          rw [taken_of_unrefused hunrefused, List.append_right_eq_self] at hmore
          rw [hmore, List.append_nil, List.take_of_length_le hwithin]
          use rfl

/-! ### What an answer does to a stream -/

/-- A stream that is connected has neither finished nor failed. -/
theorem Tracks.going (h : stream.Tracks capacity answers chunks)
    (hconnected : stream.session.isConnected = true) :
  .ok (some .finished) ∉ answers ∧ ∀ fault, .error fault ∉ answers
  := by
  constructor
  · intro hfinished
    obtain ⟨_, ⟨⟩⟩ := h.healthy hconnected _ hfinished
  · intro fault hfailed
    obtain ⟨_, ⟨⟩⟩ := h.healthy hconnected _ hfailed

/-- A stream ends, or has ended, with an answer without data. -/
theorem Tracks.ended {after : Stream} (h : stream.Tracks capacity answers chunks)
    (hreception : after.reception = stream.reception)
    (hclosed : after.session.isConnected = false) (hundelivered : after.isDelivered = false)
    (hquiet : ∀ bytes, answer ≠ .ok (some (.data bytes))) (hrefusal : isRefusal answer = false)
    (hfinished : answer = .ok (some .finished) →
      refused answers = false ∧ stream.reception.bodyComplete = true)
    (hfailed : ∀ fault, answer = .error fault → stream.reception.bodyComplete = false) :
  after.Rests capacity (answers ++ [answer]) chunks
  := by
  have hany : refused (answers ++ [answer]) = refused answers := by
    rw [refused_snoc, hrefusal, Bool.or_false]
  have htaken : taken (answers ++ [answer]) chunks = taken answers chunks := by
    rw [taken, hany]
    rfl
  refine ⟨⟨?_, ?_, ?_, ?_, ?_, ?_, ?_, ?_⟩, ?_, ?_⟩
  · rw [hreception, h.streamed]
  · rw [hreception, h.capacity_eq]
  · rw [hreception, htaken, handed_snoc, given_of_quiet hquiet, List.append_nil]
    apply h.follows
  · intro hmem
    rw [hreception, hany]
    rcases List.mem_append.mp hmem with hmem | hmem
    · apply h.finished_complete hmem
    · apply hfinished (List.mem_singleton.mp hmem).symm
  · intro fault hmem hunrefused
    rw [hany] at hunrefused
    rw [hreception]
    rcases List.mem_append.mp hmem with hmem | hmem
    · apply h.failed_incomplete fault hmem hunrefused
    · apply hfailed fault (List.mem_singleton.mp hmem).symm
  · rw [hany]
    apply h.refused_long
  · intro hmem
    rcases List.mem_append.mp hmem with hmem | hmem
    · apply h.data_ne hmem
    · apply hquiet [] (List.mem_singleton.mp hmem).symm
  · rw [hclosed]
    rintro ⟨⟩
  · rw [hclosed]
    rintro ⟨⟩
  · rw [hundelivered]
    rintro ⟨⟩

/-- A stream that has all of the body finishes. -/
theorem Tracks.finishes {after : Stream} (h : stream.Tracks capacity answers chunks)
    (hreception : after.reception = stream.reception)
    (hclosed : after.session.isConnected = false) (hundelivered : after.isDelivered = false)
    (hunrefused : refused answers = false) (hcomplete : stream.reception.bodyComplete = true) :
  after.Rests capacity (answers ++ [.ok (some .finished)]) chunks
  := by
  apply h.ended hreception hclosed hundelivered
  · rintro _ ⟨⟩
  · rfl
  · intro _
    use hunrefused
  · rintro _ ⟨⟩

/-- A stream that has not got all of the body fails. -/
theorem Tracks.fails {after : Stream} {fault : Fault} (h : stream.Tracks capacity answers chunks)
    (hreception : after.reception = stream.reception)
    (hclosed : after.session.isConnected = false) (hundelivered : after.isDelivered = false)
    (hrefusal : isRefusal (.error fault) = false)
    (hincomplete : stream.reception.bodyComplete = false) :
  after.Rests capacity (answers ++ [.error fault]) chunks
  := by
  apply h.ended hreception hclosed hundelivered
  · rintro _ ⟨⟩
  · apply hrefusal
  · rintro ⟨⟩
  · intro _ _
    apply hincomplete

/-- When the peer has closed the connection, nothing more arrives. -/
theorem Tracks.closed_by_peer (h : stream.Tracks capacity answers chunks)
    (hlater : later = chunks ∨ stream.session.isConnected = true ∧ later = [] :: chunks) :
  stream.Tracks capacity answers later
  := by
  rcases hlater with rfl | ⟨hconnected, rfl⟩
  · apply h
  · have hunrefused := h.unrefused hconnected
    refine { h with follows := ?_, refused_long := ?_ }
    · rw [taken_of_unrefused hunrefused, arrived_cons, List.append_nil,
        ← taken_of_unrefused hunrefused]
      apply h.follows
    · rw [hunrefused]
      rintro ⟨⟩

/-- A stream takes in a chunk without handing anything out. -/
theorem Tracks.fed {chunk : Bytes} {after : Reception}
    (h : stream.Tracks capacity answers chunks) (session : Session)
    (hconnected : stream.session.isConnected = true)
    (hstreamed : after.delivery = .streamed) (hcapacity : after.buffer.capacity = capacity)
    (hfollows : after.Follows (taken answers chunks ++ chunk) (handed answers)) :
  (stream.advance session after).Tracks capacity answers (chunk :: chunks)
  := by
  have hunrefused := h.unrefused hconnected
  obtain ⟨hunfinished, hunfailed⟩ := h.going hconnected
  refine ⟨hstreamed, hcapacity, ?_, ?_, ?_, ?_, h.data_ne, ?_⟩
  · rw [taken_of_unrefused hunrefused] at hfollows ⊢
    rw [arrived_cons]
    apply hfollows
  · intro hfinished
    apply absurd hfinished hunfinished
  · intro fault hfailed
    apply absurd hfailed (hunfailed fault)
  · rw [hunrefused]
    rintro ⟨⟩
  · intro _
    apply h.healthy hconnected

/-- A stream hands out what a chunk has brought of the body. -/
theorem Tracks.fed_data {chunk : Bytes} {after : Reception}
    (h : stream.Tracks capacity answers chunks)
    (hconnected : stream.session.isConnected = true)
    (hstreamed : after.delivery = .streamed) (hcapacity : after.buffer.capacity = capacity)
    (hfollows : after.Follows (taken answers chunks ++ chunk) (handed answers ++ after.front))
    (hfront : after.front ≠ []) (hhead : after.head.isSome = true) :
  Rests { stream.advance stream.session after with isDelivered := true } capacity
    (answers ++ [.ok (some (.data after.front))]) (chunk :: chunks)
  := by
  have hunrefused := h.unrefused hconnected
  obtain ⟨hunfinished, hunfailed⟩ := h.going hconnected
  have hany : refused (answers ++ [.ok (some (.data after.front))]) = false := by
    rw [refused_snoc, hunrefused]
    rfl
  refine ⟨⟨hstreamed, hcapacity, ?_, ?_, ?_, ?_, ?_, ?_⟩, ?_, ?_⟩
  · rw [taken_of_unrefused hunrefused] at hfollows
    rw [taken_of_unrefused hany, arrived_cons, handed_snoc]
    apply hfollows
  · intro hfinished
    apply absurd hfinished
    simpa using hunfinished
  · intro fault hfailed
    apply absurd hfailed
    simpa using hunfailed fault
  · rw [hany]
    rintro ⟨⟩
  · simpa using ⟨h.data_ne, hfront⟩
  · intro _ answer hanswer
    rcases List.mem_append.mp hanswer with hanswer | hanswer
    · apply h.healthy hconnected answer hanswer
    · exact ⟨_, List.mem_singleton.mp hanswer⟩
  · rintro _ ⟨⟩
  · intro _
    exact ⟨hconnected, Nat.succ_ne_zero _, hhead⟩

/-- A stream ends when a chunk does not fit. -/
theorem Tracks.fed_refused {chunk : Bytes} {session : Session} {after : Reception}
    {fault : ProtocolFault} (h : stream.Tracks capacity answers chunks)
    (hconnected : stream.session.isConnected = true) (hundelivered : stream.isDelivered = false)
    (hclosed : session.isConnected = false)
    (hstreamed : after.delivery = .streamed) (hcapacity : after.buffer.capacity = capacity)
    (hfollows : after.Follows (taken answers chunks) (handed answers))
    (hrefusal : fault.isRefusal = true)
    (hlong : capacity < (taken answers chunks ++ chunk).length) :
  (stream.advance session after).Rests capacity (answers ++ [.error (.protocol fault)])
    (chunk :: chunks)
  := by
  have hunrefused := h.unrefused hconnected
  obtain ⟨hunfinished, -⟩ := h.going hconnected
  have hany : refused (answers ++ [.error (.protocol fault)]) = true := by
    rw [refused_snoc, isRefusal, hrefusal, Bool.or_true]
  rw [taken_of_unrefused hunrefused] at hfollows hlong
  refine ⟨⟨hstreamed, hcapacity, ?_, ?_, ?_, ?_, ?_, ?_⟩, ?_, ?_⟩
  · rw [taken, hany, handed_snoc]
    change after.Follows (arrived chunks) (handed answers ++ [])
    rw [List.append_nil]
    apply hfollows
  · intro hfinished
    apply absurd hfinished
    simpa using hunfinished
  · rw [hany]
    rintro _ _ ⟨⟩
  · intro _
    rw [arrived_cons]
    apply hlong
  · simpa using h.data_ne
  · change session.isConnected = true → _
    rw [hclosed]
    rintro ⟨⟩
  · change session.isConnected = true → _
    rw [hclosed]
    rintro ⟨⟩
  · change stream.isDelivered = true → _
    rw [hundelivered]
    rintro ⟨⟩

/-- A stream ends when a chunk is not part of a response, or does not fit. -/
theorem Reading.fed_fault {chunk : Bytes} {session : Session} {after : Reception}
    {fault : ProtocolFault} (h : stream.Reading capacity answers chunks)
    (hconnected : stream.session.isConnected = true) (hclosed : session.isConnected = false)
    (hstreamed : after.delivery = .streamed) (hcapacity : after.buffer.capacity = capacity)
    (hfed : Reception.Fed (taken answers chunks) (handed answers) chunk after (.error fault)) :
  (stream.advance session after).Rests capacity (answers ++ [.error (.protocol fault)])
    (chunk :: chunks)
  := by
  rcases hfed with ⟨hrefusal, hfollows, hlong⟩ | ⟨hrefusal, hfollows, hnone⟩
  · rw [hcapacity] at hlong
    apply h.fed_refused hconnected h.undelivered hclosed hstreamed hcapacity hfollows hrefusal hlong
  · apply (h.fed session hconnected hstreamed hcapacity hfollows).fails
    · rfl
    · apply hclosed
    · apply h.undelivered
    · apply hrefusal
    · apply bodyComplete_of_none hnone

/-- A stream goes on without an answer when a chunk has brought nothing of the body. -/
theorem Reading.advance {chunk : Bytes} {after : Reception}
    (h : stream.Reading capacity answers chunks)
    (hconnected : stream.session.isConnected = true)
    (hstreamed : after.delivery = .streamed) (hcapacity : after.buffer.capacity = capacity)
    (hawaits : after.Awaits (taken answers chunks ++ chunk) (handed answers))
    (hincomplete : after.bodyComplete = false) :
  (stream.advance stream.session after).Reading capacity answers (chunk :: chunks)
  := by
  refine ⟨h.fed _ hconnected hstreamed hcapacity hawaits.toFollows, h.undelivered,
    fun _ => hincomplete, fun _ => ?_⟩
  rw [if_neg (by simp [Stream.advance])]
  have hunrefused := h.unrefused hconnected
  rw [taken_of_unrefused hunrefused] at hawaits ⊢
  rw [arrived_cons]
  apply hawaits

/-! ### Calls of `next` -/

theorem isRefusal_closedEarly (r : Reception) :
  isRefusal (.error (closedEarly r)) = false
  := by
  unfold closedEarly
  split <;> rfl

/-- Reading the next fragment leaves a stream that rests, whatever arrives. -/
theorem receive_rests (stream : Stream) :
  Act.Ensures (fun _ calls => stream.Reading capacity answers (reads calls)) (stream.receive t)
    (fun r _ calls => r.1.Rests capacity (answers ++ [r.2]) (reads calls))
  := by
  induction stream using receive.induct with
  | case1 stream r ih =>
      apply Act.Ensures.of_forall
      intro state calls h
      generalize hchunks : reads calls = chunks at h
      rw [receive]
      apply Act.Ensures.bind
      · apply (Session.readChunk_reads t stream.session chunkCapacity stream.index).imp_left
        rintro _ _ ⟨-, rfl⟩
        apply hchunks
      rintro ⟨session, fault | _ | chunk⟩
      · dsimp only
        apply failed_ensures
        rintro _ calls ⟨hconnected, hclosed, hreads, text, rfl⟩
        rw [hreads]
        exact h.fails rfl hclosed h.undelivered rfl (h.incomplete hconnected)
      · dsimp only
        split
        case isTrue =>
          apply Act.Ensures.pure
          intro _ calls hscene
          obtain ⟨hclosed, hreads⟩ := hscene
          exact (h.closed_by_peer hreads).ended rfl hclosed h.undelivered
            (by rintro _ ⟨⟩) rfl (by rintro ⟨⟩) (by rintro _ ⟨⟩)
        case isFalse hincomplete =>
          apply failed_ensures
          intro _ calls hscene
          obtain ⟨hclosed, hreads⟩ := hscene
          exact (h.closed_by_peer hreads).fails rfl hclosed h.undelivered (isRefusal_closedEarly _)
            (by simpa using hincomplete)
      · dsimp only
        apply Act.Ensures.bind_reportAll
        apply Act.Ensures.of_fact
        intro hconnected
        apply Act.Ensures.of_fact
        rintro rfl
        obtain ⟨hdelivery, hbuffer⟩ :=
          stream.reception.feed_keeps stream.index chunk.bytes
        have hstreamed := hdelivery.trans h.streamed
        have hcapacity := hbuffer.trans h.capacity_eq
        have hfed := Reception.feed_fed stream.index h.streamed (h.awaits hconnected) chunk.bytes_ne
        split
        case h_1 after fault heq =>
          rw [heq] at hstreamed hcapacity hfed
          apply Act.Ensures.bind (Session.finish_closed
            (t.keepsUnread_reads (· = chunk.bytes :: chunks)) stream.session)
          intro session
          apply Act.Ensures.of_fact
          intro hclosed
          apply failed_ensures
          intro _ calls hreads
          rw [hreads]
          apply h.fed_fault hconnected hclosed hstreamed hcapacity hfed
        case h_2 after heq =>
          rw [heq] at hstreamed hcapacity hfed
          split
          case isTrue hcomplete =>
            apply Act.Ensures.map
            apply (Session.finish_closed
              (t.keepsUnread_reads (· = chunk.bytes :: chunks)) stream.session).imp_right
            intro session _ calls hscene
            obtain ⟨hclosed, hreads⟩ := hscene
            rw [hreads]
            have htracks := h.fed session hconnected hstreamed hcapacity hfed.toFollows
            apply htracks.finishes rfl hclosed h.undelivered (h.unrefused hconnected) hcomplete
          case isFalse hincomplete =>
            apply (ih stream.session chunk after heq).imp_left
            intro _ calls hreads
            rw [hreads]
            exact h.advance hconnected hstreamed hcapacity hfed (by simpa using hincomplete)
        case h_3 after size heq =>
          rw [heq] at hstreamed hcapacity hfed
          obtain ⟨hfollows, hfront, hhead⟩ := hfed
          apply Act.Ensures.pure
          intro _ calls hreads
          rw [hreads]
          exact h.fed_data hconnected hstreamed hcapacity hfollows hfront hhead

/-- What was handed out last leaves the buffer before more is read. -/
theorem Rests.drain (h : stream.Rests capacity answers chunks)
    (hdelivered : stream.isDelivered = true) (hincomplete : stream.reception.bodyComplete = false) :
  Reading { stream with isDelivered := false, reception := stream.reception.drain } capacity
    answers chunks
  := by
  obtain ⟨hconnected, hindex, hhead⟩ := h.delivered hdelivered
  have hfollows : stream.reception.drain.Follows (taken answers chunks) (handed answers) :=
    ⟨h.follows.response_eq, h.follows.received_eq, h.follows.body_eq, h.follows.fits⟩
  refine ⟨⟨h.streamed, h.capacity_eq, hfollows, h.finished_complete, h.failed_incomplete,
    h.refused_long, h.data_ne, h.healthy⟩, rfl, fun _ => hincomplete, fun _ => ?_⟩
  rw [if_neg hindex]
  refine ⟨hfollows, Nat.zero_le _, ?_⟩
  apply List.take_zero.trans (if_pos hhead).symm

/-- A stream that has nothing in its buffer reads. -/
theorem Rests.reading (h : stream.Rests capacity answers chunks)
    (hundelivered : stream.isDelivered = false) :
  stream.Reading capacity answers chunks
  := by
  refine ⟨h.toTracks, hundelivered, ?_, ?_⟩
  · intro hconnected
    apply bodyComplete_of_none
    apply (h.fresh hconnected hundelivered).2.1
  · intro hconnected
    obtain ⟨hindex, -, rfl, rfl⟩ := h.fresh hconnected hundelivered
    rw [if_pos hindex]
    apply Reception.awaits_restart

/-- The next fragment leaves a stream that rests. -/
theorem next_rests (stream : Stream) :
  Act.Ensures (fun _ calls => stream.Rests capacity answers (reads calls)) (stream.next t)
    (fun r _ calls => r.1.Rests capacity (answers ++ [r.2]) (reads calls))
  := by
  unfold next
  split
  case isTrue hdelivered =>
    dsimp only
    split
    case isTrue hcomplete =>
      apply Act.Ensures.map
      apply (Session.finish_closed (t.keepsUnread_reads (stream.Rests capacity answers))
        stream.session).imp_right
      intro session _ calls h
      obtain ⟨hclosed, h⟩ := h
      obtain ⟨hconnected, -, -⟩ := h.delivered hdelivered
      exact h.finishes rfl hclosed rfl (h.unrefused hconnected) hcomplete
    case isFalse hincomplete =>
      apply (receive_rests _).imp_left
      intro _ calls h
      exact h.drain hdelivered (by simpa using hincomplete)
  case isFalse hundelivered =>
    apply (receive_rests stream).imp_left
    intro _ calls h
    exact h.reading (by simpa using hundelivered)

/-- So many calls of `next`, and the answers to them in order. -/
def nexts (t : Transport σ) : (count : Nat) → Stream → Act σ (Stream × List Answer)
  | 0, stream => return (stream, [])
  | count + 1, stream => do
    let (stream, answer) ← stream.next t
    let (stream, answers) ← nexts t count stream
    return (stream, answer :: answers)

/-- A stream rests after each of its answers. -/
theorem nexts_rests (count : Nat) (stream : Stream) :
  Act.Ensures (fun _ calls => stream.Rests capacity answers (reads calls)) (nexts t count stream)
    (fun r _ calls => r.1.Rests capacity (answers ++ r.2) (reads calls))
  := by
  induction count generalizing stream answers with
  | zero =>
      apply Act.Ensures.pure
      intro _ _ h
      rw [List.append_nil]
      apply h
  | succ count ih =>
      rw [nexts]
      apply (next_rests stream).bind
      rintro ⟨stream, answer⟩
      apply Act.Ensures.map
      apply (ih stream).imp_right
      intro r _ _ h
      rw [List.append_cons]
      apply h

end Stream

/-- A stream that has been opened rests before it has answered anything. -/
theorem openStream_rests (client : Client) (request : Request) (capacity : Nat) :
  Act.Ensures (fun _ calls => reads calls = []) (client.openStream t request capacity)
    (fun r _ calls => reads calls = []
      ∧ ∀ stream, r.2 = .ok stream → stream.Rests capacity [] (reads calls))
  := by
  unfold openStream
  apply Act.Ensures.bind_report
  apply Act.Ensures.bind (begin_keeps (t.keepsUnread_reads (· = [])) _ request)
  rintro ⟨session, fault | _⟩
  · apply Act.Ensures.bind_reportAll
    apply Act.Ensures.pure
    intro _ _ h
    use h
    rintro _ ⟨⟩
  · apply Act.Ensures.pure
    intro _ _ h
    use h
    rintro _ ⟨rfl⟩
    rw [h]
    refine ⟨⟨rfl, rfl, ⟨rfl, rfl, fun _ => rfl, fun _ => Nat.zero_le _⟩, ?_, ?_, ?_, ?_, ?_⟩,
      ?_, ?_⟩
    · rintro ⟨⟩
    · rintro _ ⟨⟩
    · rintro ⟨⟩
    · rintro ⟨⟩
    · rintro _ _ ⟨⟩
    · exact fun _ _ => ⟨rfl, rfl, rfl, rfl⟩
    · rintro ⟨⟩

end FirmwareUpdate.Client
