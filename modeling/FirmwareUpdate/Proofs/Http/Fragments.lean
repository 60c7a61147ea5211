import FirmwareUpdate.Proofs.Http.Streaming
import FirmwareUpdate.Proofs.Worker.Agreement

/-!
# The order of a stream's answers

A stream answers with fragments of the body, then with the end or with errors. Once it has told the
end or an error its connection is closed, and from then on each answer is the same.
-/

namespace FirmwareUpdate

variable {σ : Type}

namespace Reception

variable {r after : Reception} {index : Nat} {chunk : Bytes}

/-- After a chunk that was taken in, no more is held than fits into the buffer. -/
theorem length_front_of_feed {fed : Feed} (h : r.feed index chunk = (after, .ok fed)) :
  after.front.length ≤ after.buffer.capacity
  := by
  apply Nat.le_trans (List.length_take_le _ _)
  cases feeds_of_feed h with
  | @taken start _ _ _ hfits htakes =>
      have happended : (start.append chunk).held ≤ start.buffer.capacity := hfits
      cases htakes with
      | body _ hafter =>
          subst hafter
          apply happended
      | unfinished _ _ => apply happended
      | @accepted _ body _ _ _ hsplit _ hafter =>
          subst hafter
          have hbody := congrArg List.length (Text.append_of_splitAtFirst hsplit)
          have hfront : (start.append chunk).front.length ≤ (start.append chunk).held :=
            List.length_take_le _ _
          simp only [List.length_append] at hbody
          apply Nat.le_trans _ happended
          change body.length ≤ _
          omega

/-- A chunk that is refused completes no body, and neither does a head that is rejected. -/
theorem incomplete_of_feed {fault : ProtocolFault} (h : r.feed index chunk = (after, .error fault))
    (hincomplete : r.bodyComplete = false) :
  after.bodyComplete = false
  := by
  cases feeds_of_feed h with
  | refused hstart _ =>
      subst hstart
      split
      · rfl
      · apply hincomplete
  | taken _ _ htakes =>
      cases htakes with
      | rejected hnone _ _ => apply Client.Stream.bodyComplete_of_none hnone

end Reception

namespace Client

/-- What follows the fragments of a stream: nothing yet, or the end and nothing after it, or errors
only. -/
inductive Ending : List Answer → Prop
  | awaited : Ending []
  | finished (count : Nat) : Ending (.ok (some .finished) :: List.replicate count (.ok none))
  | failed (fault : Fault) (faults : List Fault) : Ending (.error fault :: faults.map .error)

namespace Stream

variable {t : Transport σ} {capacity : Nat} {stream : Stream}

/-- A stream that can hand out more. What it has handed out last may have completed the body, but
nothing else has. -/
structure Live (capacity : Nat) (stream : Stream) : Prop where
  connected : stream.session.isConnected = true
  capacity_eq : stream.reception.buffer.capacity = capacity
  incomplete : stream.isDelivered = false → stream.reception.bodyComplete = false

/-- A stream that has told the end or an error. -/
structure Over (stream : Stream) : Prop where
  closed : stream.session.isConnected = false
  undelivered : stream.isDelivered = false

/-- What a stream that is over answers to every call. -/
def lasting (stream : Stream) : Answer :=
  if stream.reception.bodyComplete then .ok none else .error (closedEarly stream.reception)

/-- What an answer of a stream that can hand out more leaves of it. -/
def Leads (capacity : Nat) : Stream × Answer → Prop
  | (after, .ok (some (.data bytes))) => bytes.length ≤ capacity ∧ after.Live capacity
  | (after, .ok (some .finished)) => after.Over ∧ after.reception.bodyComplete = true
  | (_, .ok none) => False
  | (after, .error _) => after.Over ∧ after.reception.bodyComplete = false

theorem Fresh.live (h : stream.Fresh capacity) :
  stream.Live capacity
  := by
  refine ⟨h.connected, ?_, fun _ => ?_⟩
  · rw [h.reception_eq]
    rfl
  · rw [h.reception_eq]
    rfl

/-! ### Before the end -/

/-- A stream that reads hands out a fragment that fits, or is over. -/
theorem receive_leads (stream : Stream) (h : stream.Live capacity)
    (hundelivered : stream.isDelivered = false) :
  Act.Ensures (fun _ _ => True) (stream.receive t) (fun r _ _ => Leads capacity r)
  := by
  induction stream using receive.induct with
  | case1 stream r ih =>
      have hincomplete : stream.reception.bodyComplete = false := h.incomplete hundelivered
      apply Act.Ensures.of_forall
      intro state calls _
      rw [receive]
      apply Act.Ensures.bind
      · apply (Session.readChunk_reads t stream.session chunkCapacity stream.index).imp_left
        rintro _ _ ⟨-, rfl⟩
        rfl
      rintro ⟨session, fault | _ | chunk⟩
      · apply failed_ensures
        rintro _ _ ⟨-, hclosed, -⟩
        exact ⟨⟨hclosed, hundelivered⟩, hincomplete⟩
      · dsimp only
        rw [if_neg (Bool.eq_false_iff.mp hincomplete)]
        apply failed_ensures
        rintro _ _ ⟨hclosed, -⟩
        exact ⟨⟨hclosed, hundelivered⟩, hincomplete⟩
      · dsimp only
        apply Act.Ensures.bind_reportAll
        apply Act.Ensures.of_fact
        intro _
        apply Act.Ensures.of_fact
        rintro rfl
        have hcapacity := (stream.reception.feed_keeps stream.index chunk.bytes).2
        rw [h.capacity_eq] at hcapacity
        split
        case h_1 after fault heq =>
          apply Act.Ensures.bind (Session.finish_disconnects _)
          intro session
          apply failed_ensures
          intro _ _ hclosed
          exact ⟨⟨hclosed, hundelivered⟩, Reception.incomplete_of_feed heq hincomplete⟩
        case h_2 after heq =>
          rw [heq] at hcapacity
          split
          case isTrue hcomplete =>
            apply Act.Ensures.map
            apply (Session.finish_disconnects _).imp_right
            exact fun _ _ _ hclosed => ⟨⟨hclosed, hundelivered⟩, hcomplete⟩
          case isFalse hincomplete =>
            -- Nothing has been handed out and the body goes on, so the stream can still hand out.
            have hlive : (stream.advance stream.session after).Live capacity :=
              ⟨h.connected, hcapacity, fun _ => Bool.eq_false_iff.mpr hincomplete⟩
            apply (ih stream.session chunk after heq hlive hundelivered).imp_left
            exact fun _ _ _ => trivial
        case h_3 after size heq =>
          rw [heq] at hcapacity
          apply Act.Ensures.pure
          intro _ _ _
          refine ⟨?_, h.connected, hcapacity, ?_⟩
          · rw [← hcapacity]
            apply Reception.length_front_of_feed heq
          · rintro ⟨⟩

/-- When all of a body has been handed out, the end is told. -/
theorem next_complete {P : Assertion σ} (hdelivered : stream.isDelivered = true)
    (hcomplete : stream.reception.bodyComplete = true) :
  Act.Ensures P (stream.next t)
    (fun r _ _ => r.2 = .ok (some .finished) ∧ r.1.Over ∧ r.1.reception = stream.reception)
  := by
  unfold next
  rw [if_pos hdelivered]
  dsimp only
  rw [if_pos hcomplete]
  apply Act.Ensures.map
  apply (Session.finish_disconnects stream.session).imp_right
  exact fun _ _ _ hclosed => ⟨rfl, ⟨hclosed, rfl⟩, rfl⟩

/-- A stream that can hand out more does so, or is over. -/
theorem next_leads (h : stream.Live capacity) :
  Act.Ensures (fun _ _ => True) (stream.next t) (fun r _ _ => Leads capacity r)
  := by
  by_cases hdelivered : stream.isDelivered = true
  · by_cases hcomplete : stream.reception.bodyComplete = true
    · apply (next_complete hdelivered hcomplete).imp_right
      rintro ⟨after, _⟩ _ _ ⟨rfl, hover, hreception⟩
      refine ⟨hover, ?_⟩
      rw [hreception, hcomplete]
    · rw [next, if_pos hdelivered]
      dsimp only
      rw [if_neg hcomplete]
      have hlive : Live capacity
          { stream with isDelivered := false, reception := stream.reception.drain } :=
        ⟨h.connected, h.capacity_eq, fun _ => Bool.eq_false_iff.mpr hcomplete⟩
      apply receive_leads _ hlive rfl
  · rw [next, if_neg hdelivered]
    apply receive_leads stream h (Bool.eq_false_iff.mpr hdelivered)

/-! ### After the end -/

/-- A stream that is over stays as it is, and calls nothing. -/
theorem next_over {I : Assertion σ} (h : stream.Over) :
  Act.Ensures I (stream.next t) fun r state calls => r = (stream, stream.lasting) ∧ I state calls
  := by
  rw [next, if_neg (Bool.eq_false_iff.mp h.undelivered), receive]
  apply Act.Ensures.bind
    (R := fun read state calls => read = (stream.session, .ok none) ∧ I state calls)
  · rw [Session.readChunk, if_neg (Bool.eq_false_iff.mp h.closed)]
    exact .pure fun _ _ hI => ⟨rfl, hI⟩
  intro read
  apply Act.Ensures.of_fact
  rintro rfl
  dsimp only
  split
  case isTrue hcomplete =>
    apply Act.Ensures.pure
    intro _ _ hI
    rw [lasting, if_pos hcomplete]
    exact ⟨rfl, hI⟩
  case isFalse hincomplete =>
    apply failed_ensures
    intro _ _ hI
    rw [lasting, if_neg hincomplete]
    exact ⟨rfl, hI⟩

theorem nexts_over {I : Assertion σ} (h : stream.Over) (count : Nat) :
  Act.Ensures I (nexts t count stream) fun r state calls =>
    r = (stream, List.replicate count stream.lasting) ∧ I state calls
  := by
  induction count with
  | zero => exact .pure fun _ _ hI => ⟨rfl, hI⟩
  | succ count ih =>
      apply (next_over h).bind
      intro answered
      apply Act.Ensures.of_fact
      rintro rfl
      apply Act.Ensures.map
      apply ih.imp_right
      rintro _ _ _ ⟨rfl, hI⟩
      exact ⟨rfl, hI⟩

/-! ### All answers -/

/-- The answers of a stream up to now are fragments that fit into a buffer, and what follows them.
The stream is over if anything does. -/
def InOrder (capacity : Nat) : Stream × List Answer → Prop
  | (after, answers) => ∃ (fragments : List Bytes) (ending : List Answer),
      answers = fragments.map (fun bytes => .ok (some (.data bytes))) ++ ending
        ∧ (∀ bytes ∈ fragments, bytes.length ≤ capacity) ∧ Ending ending
        ∧ (ending ≠ [] → after.Over)

/-- A fragment comes before all that a stream answers later. -/
theorem InOrder.cons {answers : List Answer} {bytes : Bytes} (hlength : bytes.length ≤ capacity)
    (h : InOrder capacity (stream, answers)) :
  InOrder capacity (stream, .ok (some (.data bytes)) :: answers)
  := by
  obtain ⟨fragments, ending, rfl, hfragments, hending, hover⟩ := h
  exact ⟨bytes :: fragments, ending, rfl, List.forall_mem_cons.mpr ⟨hlength, hfragments⟩, hending,
    hover⟩

/-- Whatever a stream answers before it is over, the last answer lasts. -/
theorem Leads.ending {answer : Answer} (h : Leads capacity (stream, answer))
    (hquiet : ∀ bytes, answer ≠ .ok (some (.data bytes))) :
  stream.Over ∧ ∀ count, Ending (answer :: List.replicate count stream.lasting)
  := by
  rcases answer with fault | _ | bytes | _
  · obtain ⟨hover, hincomplete⟩ := h
    refine ⟨hover, fun count => ?_⟩
    rw [lasting, if_neg (Bool.eq_false_iff.mp hincomplete), ← List.map_replicate]
    apply Ending.failed
  · exact h.elim
  · apply absurd rfl (hquiet bytes)
  · obtain ⟨hover, hcomplete⟩ := h
    refine ⟨hover, fun count => ?_⟩
    rw [lasting, if_pos hcomplete]
    apply Ending.finished

/-- The answers of a stream come in order. -/
theorem nexts_inOrder (h : stream.Live capacity) (count : Nat) :
  Act.Ensures (fun _ _ => True) (nexts t count stream) (fun r _ _ => InOrder capacity r)
  := by
  induction count generalizing stream with
  | zero =>
      apply Act.Ensures.pure
      intro _ _ _
      exact ⟨[], [], rfl, List.forall_mem_nil _, .awaited, fun h => absurd rfl h⟩
  | succ count ih =>
      rw [nexts]
      apply (next_leads h).bind
      rintro ⟨after, answer⟩
      apply Act.Ensures.of_forall
      intro _ _ hleads
      apply Act.Ensures.map
      by_cases hquiet : ∀ bytes, answer ≠ .ok (some (.data bytes))
      · obtain ⟨hover, hending⟩ := hleads.ending hquiet
        apply (nexts_over hover count).imp_right
        rintro _ _ _ ⟨rfl, -⟩
        exact ⟨[], _, rfl, List.forall_mem_nil _, hending count, fun _ => hover⟩
      · push Not at hquiet
        obtain ⟨bytes, rfl⟩ := hquiet
        obtain ⟨hlength, hlive⟩ := hleads
        apply (ih hlive).imp
        · exact fun _ _ _ => trivial
        · exact fun _ _ _ hlater => hlater.cons hlength

/-! ### What is handed out -/

/-- A stream has handed out the body of what it has taken in. -/
theorem Tracks.handed_eq {answers : List Answer} {chunks : List Bytes}
    (h : stream.Tracks capacity answers chunks) :
  handed answers = bodyOf (taken answers chunks)
  := by
  have hresponse := h.follows.response_eq
  cases hhead : stream.reception.head with
  | none =>
      rw [hhead] at hresponse
      rw [h.follows.body_eq hhead, bodyOf_of_none hresponse]
  | some head =>
      rw [hhead] at hresponse
      rw [bodyOf_of_response hresponse]

/-- For every transport, every size of the buffer and every number of calls of `next`, where the
record is that of the calls made since the stream began to be opened:
* the stream has answered with fragments, none of them empty and none longer than the buffer, and
  then with nothing yet, with the end and nothing after it, or with errors only;
* once it has told the end, what has been read is an accepted head and the bytes that were handed
  out, and these are no fewer than the head declares;
* what was handed out is all that follows an accepted head in what has been read, without the chunk
  that was refused because it did not fit;
* once the stream has told the end or an error, it reads no more. -/
theorem nexts_protocol {opening : Site σ} {client after : Client} {request : Request} {count : Nat}
    {rest : Stream} {opened last : Scene σ} {answers : List Answer}
    (hopened : client.openStream t request capacity { toSite := opening }
      = ((after, .ok stream), opened))
    (hnexts : nexts t count stream opened = ((rest, answers), last)) :
  (∃ (fragments : List Bytes) (ending : List Answer),
      answers = fragments.map (fun bytes => .ok (some (.data bytes))) ++ ending
        ∧ (∀ bytes ∈ fragments, bytes ≠ [] ∧ bytes.length ≤ capacity) ∧ Ending ending)
    ∧ (.ok (some .finished) ∈ answers →
        ∃ head, response? (arrived (reads last.calls)) = some (head, handed answers)
          ∧ head.contentLength.toNat ≤ (handed answers).length)
    ∧ handed answers = bodyOf (taken answers (reads last.calls))
    ∧ ((∃ answer ∈ answers, ∀ bytes, answer ≠ .ok (some (.data bytes))) →
        ∀ more, (nexts t more rest last).2.calls = last.calls)
  := by
  obtain ⟨hfresh, -, hrests⟩ := ((openStream_fresh (t := t) client request capacity).both
    (openStream_rests client request capacity)).run { toSite := opening } ⟨trivial, rfl⟩
  rw [hopened] at hfresh hrests
  have hinOrder := (nexts_inOrder (t := t) (hfresh stream rfl).live count).run opened trivial
  have hlast := (nexts_rests (t := t) count stream).run opened (hrests stream rfl)
  rw [hnexts] at hinOrder hlast
  obtain ⟨fragments, ending, rfl, hfragments, hending, hover⟩ := hinOrder
  refine ⟨⟨fragments, ending, rfl, fun bytes hbytes => ?_, hending⟩, fun hfinished => ?_,
    hlast.toTracks.handed_eq, ?_⟩
  · refine ⟨?_, hfragments bytes hbytes⟩
    rintro rfl
    apply hlast.data_ne
    apply List.mem_append_left _ (List.mem_map_of_mem hbytes)
  · obtain ⟨hunrefused, hcomplete⟩ := hlast.finished_complete hfinished
    apply hlast.toTracks.whole hunrefused hcomplete
  · rintro ⟨answer, hanswer, hquiet⟩ more
    have hended : ending ≠ [] := by
      rintro rfl
      rw [List.append_nil] at hanswer
      obtain ⟨bytes, -, rfl⟩ := List.mem_map.mp hanswer
      apply hquiet bytes rfl
    apply ((nexts_over (I := fun _ calls => calls = last.calls) (hover hended) more).run last rfl).2

/-! ### Responses of one chunk -/

section

variable {D : List Arrival → σ → Prop} {raw body : Bytes}

/-- What a stream answers to a chunk after which no more are needed. -/
def answerTo (after : Reception) : Except ProtocolFault Feed → Answer
  | .error fault => .error (.protocol fault)
  | .ok _ => .ok (some (.data after.front))

/-- The first answer of a stream hangs on what its reception makes of the first chunk. -/
theorem next_first (h : t.Delivers D) (hfresh : stream.Fresh capacity) (hne : raw ≠ [])
    (hfits : raw.length ≤ chunkCapacity) {after : Reception} {fed : Except ProtocolFault Feed}
    (hfeed : (Reception.start .streamed capacity).feed 0 raw = (after, fed))
    (henough : fed ≠ .ok .needMore) :
  Act.Ensures (fun state calls => D [.chunk raw] state ∧ reads calls = []) (stream.next t)
    (fun r _ calls => r.2 = answerTo after fed ∧ r.1.reception = after
      ∧ r.1.isDelivered = fed.isOk ∧ reads calls = [raw])
  := by
  have htimely : Arrival.Timely stream.session.timeout 0 0 [.chunk raw] := trivial
  rw [← hfresh.reception_eq, ← hfresh.index_eq] at hfeed
  rw [next, if_neg (Bool.eq_false_iff.mp hfresh.undelivered), receive]
  apply Act.Ensures.bind (R := fun read _ calls =>
    read = (stream.session, .ok (some ⟨raw, hne⟩)) ∧ reads calls = [raw])
  · apply ((h.readChunk hfresh.connected rfl hne hfits stream.index htimely).both
      (Session.readChunk_reads t stream.session chunkCapacity stream.index)).imp_right
    rintro _ _ _ ⟨⟨rfl, -⟩, -, -, hreads⟩
    exact ⟨rfl, hreads⟩
  intro read
  apply Act.Ensures.of_fact
  rintro rfl
  dsimp only
  apply Act.Ensures.bind_reportAll
  split
  case h_1 fault heq =>
    obtain ⟨rfl, rfl⟩ := Prod.mk.inj (hfeed.symm.trans heq)
    apply Act.Ensures.bind (Session.finish_closed (t.keepsUnread_reads (· = [raw])) _)
    intro session
    apply failed_ensures
    rintro state calls ⟨-, hreads⟩
    exact ⟨rfl, rfl, hfresh.undelivered, hreads⟩
  case h_2 heq => apply absurd (congrArg Prod.snd (hfeed.symm.trans heq)) henough
  case h_3 size heq =>
    obtain ⟨rfl, rfl⟩ := Prod.mk.inj (hfeed.symm.trans heq)
    exact .pure fun _ _ hreads => ⟨rfl, rfl, rfl, hreads⟩

/-- Nothing is handed out of a response whose head is rejected. -/
theorem next_rejected (h : t.Delivers D) (hfresh : stream.Fresh capacity)
    (hfits : raw.length ≤ chunkCapacity) (hroom : raw.length ≤ capacity) {start : Bytes}
    {fault : ProtocolFault} (hsplit : Text.splitAtFirst Head.terminator raw = some (start, body))
    (hfault : Head.ofBytes start = .error fault) :
  Act.Ensures (fun state calls => D [.chunk raw] state ∧ reads calls = []) (stream.next t)
    (fun r _ calls => r.2 = .error (.protocol fault) ∧ reads calls = [raw])
  := by
  have hne : raw ≠ [] := by
    rintro rfl
    cases hsplit
  have hunrefused (size required : Nat) : ((Reception.start .streamed capacity).feed 0 raw).2
      ≠ .error (.bufferTooSmall size required) := by
    apply Reception.feed_of_room
    simpa [Reception.restart, Reception.start] using hroom
  obtain ⟨hreply, -⟩ := Reception.feed_parsed 0 (Reception.parsed_restart _) hunrefused
  rw [← List.nil_append raw] at hsplit
  rw [reply_of_error hsplit hfault] at hreply
  have hfeed := Prod.eta_of_snd (congrArg Reply.answer hreply)
  apply (next_first h hfresh hne hfits hfeed (by rintro ⟨⟩)).imp_right
  rintro _ _ _ ⟨hanswer, -, -, hreads⟩
  exact ⟨hanswer, hreads⟩

/-- A response that arrives at once and whole is handed out in one fragment. -/
theorem nexts_whole (h : t.Delivers D) (hfresh : stream.Fresh capacity)
    (hfits : raw.length ≤ chunkCapacity) (hroom : raw.length ≤ capacity) {head : Head}
    (hresponse : response? raw = some (head, body)) (hbody : body ≠ [])
    (hwhole : head.contentLength.toNat ≤ body.length) (count : Nat) :
  Act.Ensures (fun state calls => D [.chunk raw] state ∧ reads calls = [])
    (nexts t (count + 2) stream)
    (fun r _ _ => r.2 = .ok (some (.data body)) :: .ok (some .finished)
      :: List.replicate count (.ok none))
  := by
  have hne : raw ≠ [] := by
    rintro rfl
    cases hresponse
  obtain ⟨after, size, hfeed, hhead, rfl, hreceived⟩ :=
    Reception.feed_response hroom hresponse hbody
  have hcomplete : after.bodyComplete = true := by
    rw [bodyComplete_iff hhead, hreceived]
    apply hwhole
  rw [nexts]
  apply (next_first h hfresh hne hfits hfeed (by rintro ⟨⟩)).bind
  rintro ⟨first, _⟩
  apply Act.Ensures.of_forall
  rintro _ _ ⟨rfl, hfirst, hdelivered, -⟩
  rw [← hfirst] at hcomplete
  apply Act.Ensures.map
  rw [nexts]
  apply (next_complete hdelivered hcomplete).bind
  rintro ⟨second, _⟩
  apply Act.Ensures.of_forall
  rintro _ _ ⟨rfl, hover, hsecond⟩
  rw [← hsecond] at hcomplete
  apply Act.Ensures.map
  apply (nexts_over hover count).imp_right
  rintro _ _ _ ⟨rfl, -⟩
  rw [lasting, if_pos hcomplete]
  rfl

end

/-- A stream is opened to a peer that is accepted, and nothing has been received on it. -/
theorem openStream_waiting (raw : Bytes) (haccepted : (begin Bench.waiting.transport
      Bench.Rig.sampleWorker.client.session Bench.imageRequest { state := [.chunk raw] }).1.2
    = .ok ()) :
  ∃ (after : Client) (stream : Stream) (opened : Scene (List Arrival)),
    Bench.Rig.sampleWorker.client.openStream Bench.waiting.transport Bench.imageRequest 4096
        { state := [.chunk raw] }
      = ((after, .ok stream), opened)
    ∧ stream.Fresh 4096 ∧ [.chunk raw] = opened.state ∧ reads opened.calls = []
  := by
  have haccepts : Accepts Bench.waiting.transport Bench.Rig.sampleWorker.client.session
      Bench.imageRequest [.chunk raw] [] :=
    accepts_of_begin Bench.waiting_respecting (s := { state := [.chunk raw] }) haccepted []
  have hopen := ((openStream_accepted Bench.Rig.sampleWorker.client Bench.imageRequest 4096).both
    ((openStream_fresh (t := Bench.waiting.transport) Bench.Rig.sampleWorker.client
      Bench.imageRequest 4096).both
    ((openStream_keeps (Bench.waiting_delivers.kept [.chunk raw]) _ _ _).both
      (openStream_keeps (Bench.waiting.transport.keepsUnread_reads (· = [])) _ _ _)))).run
    { state := [.chunk raw] } ⟨haccepts, trivial, rfl, rfl⟩
  rcases hopened : Bench.Rig.sampleWorker.client.openStream Bench.waiting.transport
    Bench.imageRequest 4096 { state := [.chunk raw] } with ⟨⟨after, outcome⟩, opened⟩
  rw [hopened] at hopen
  obtain ⟨⟨stream, rfl⟩, hfresh, hstate, hreads⟩ := hopen
  exact ⟨after, stream, opened, rfl, hfresh stream rfl, hstate, hreads⟩

/-- A response with a body of one byte is handed out, and two more calls are made. -/
theorem nexts_protocol_sample :
  ∃ (after : Client) (stream rest : Stream) (opened last : Scene (List Arrival)),
    Bench.Rig.sampleWorker.client.openStream Bench.waiting.transport Bench.imageRequest 4096
        { state := [.chunk (Bench.okResponse [65])] }
      = ((after, .ok stream), opened)
    ∧ nexts Bench.waiting.transport 3 stream opened
      = ((rest, [.ok (some (.data [65])), .ok (some .finished), .ok none]), last)
    ∧ (∃ head, response? (arrived (reads last.calls)) = some (head, [65])
        ∧ head.contentLength.toNat ≤ 1)
    ∧ ∀ more, (nexts Bench.waiting.transport more rest last).2.calls = last.calls
  := by
  obtain ⟨after, stream, opened, hopened, hfresh, hstate, hreads⟩ :=
    openStream_waiting (Bench.okResponse [65]) (by decide +kernel)
  have hresponse : response? (Bench.okResponse [65]) = some (⟨1, 1, 200, 1⟩, [65]) := by
    decide +kernel
  have hwhole := (nexts_whole Bench.waiting_delivers hfresh (by decide +kernel) (by decide +kernel)
    hresponse (by decide) (by decide) 1).run opened ⟨hstate, hreads⟩
  rcases hnexts : nexts Bench.waiting.transport 3 stream opened with ⟨⟨rest, answers⟩, last⟩
  rw [hnexts] at hwhole
  obtain rfl := hwhole
  obtain ⟨-, hfinished, -, hquiet⟩ := nexts_protocol hopened hnexts
  refine ⟨after, stream, rest, opened, last, hopened, hnexts, hfinished (by decide), hquiet ?_⟩
  use .ok none
  simp

/-- The head of a response to a request for a file that is not there. -/
def rejectedHead : Bytes :=
  utf8 "HTTP/1.1 404 Not Found\r\nContent-Length: 1"

/-- The response, with a body of one byte. -/
def rejectedResponse : Bytes :=
  rejectedHead ++ Head.terminator ++ [65]

/-- One byte follows the head of a response that is rejected, and it is not handed out although no
chunk has been refused. -/
theorem rejected_withheld :
  ∃ (after : Client) (stream rest : Stream) (opened last : Scene (List Arrival))
      (answers : List Answer),
    Bench.Rig.sampleWorker.client.openStream Bench.waiting.transport Bench.imageRequest 4096
        { state := [.chunk rejectedResponse] }
      = ((after, .ok stream), opened)
    ∧ nexts Bench.waiting.transport 1 stream opened = ((rest, answers), last)
    ∧ answers = [.error (.protocol (.nonOkStatus 404))]
    ∧ refused answers = false
    ∧ Text.splitAtFirst Head.terminator (arrived (reads last.calls)) = some (rejectedHead, [65])
    ∧ handed answers ≠ [65]
  := by
  obtain ⟨after, stream, opened, hopened, hfresh, hstate, hreads⟩ :=
    openStream_waiting rejectedResponse (by decide +kernel)
  have hsplit : Text.splitAtFirst Head.terminator rejectedResponse = some (rejectedHead, [65]) := by
    decide +kernel
  have hfault : Head.ofBytes rejectedHead = .error (.nonOkStatus 404) := by
    decide +kernel
  have honce : Act.Ensures (fun state calls => [.chunk rejectedResponse] = state ∧ reads calls = [])
      (nexts Bench.waiting.transport 1 stream) (fun r _ calls =>
        r.2 = [.error (.protocol (.nonOkStatus 404))] ∧ reads calls = [rejectedResponse]) := by
    apply (next_rejected Bench.waiting_delivers hfresh (by decide +kernel) (by decide +kernel)
      hsplit hfault).bind
    rintro ⟨_, answer⟩
    apply Act.Ensures.pure
    rintro _ _ ⟨rfl, hreads⟩
    exact ⟨rfl, hreads⟩
  have hlast := honce.run opened ⟨hstate, hreads⟩
  rcases hnexts : nexts Bench.waiting.transport 1 stream opened with ⟨⟨rest, answers⟩, last⟩
  rw [hnexts] at hlast
  obtain ⟨rfl, hlast⟩ := hlast
  refine ⟨after, stream, rest, opened, last, _, hopened, hnexts, rfl, rfl, ?_, by decide⟩
  rw [hlast]
  change Text.splitAtFirst Head.terminator (rejectedResponse ++ []) = _
  rw [List.append_nil, hsplit]

end Stream

end Client

end FirmwareUpdate
