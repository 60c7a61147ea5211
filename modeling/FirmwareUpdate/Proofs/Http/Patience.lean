import FirmwareUpdate.Proofs.Http.Fragments
import FirmwareUpdate.Proofs.Session.Step

/-!
# How long a client listens

A client asks for chunks only as long as its buffer may take them. Every chunk brings at least one
byte, and the buffer is filled at most twice, with the head and with the body; so the number of
reads is bounded by the size of the buffer, whatever arrives and even if the connection is never
closed. A stream is bounded besides by what its head declares, since no fragment is empty and none
is handed out behind the declared length.

The main statement is `listening_bounded`.
-/

namespace FirmwareUpdate

variable {σ : Type} {t : Transport σ} {calls : List Call} {n : Nat}

/-! ### Reads in the record -/

/-- Whether a call has asked for bytes of a response. -/
def Call.isReceive : Call → Bool
  | .receive _ _ => true
  | _ => false

/-- Whether the latest call has asked for bytes and was told to try again, so that its read goes
on. -/
def isMidRead : List Call → Bool
  | .receive _ (.retry _) :: _ => true
  | _ => false

/-- How many chunks have been asked for. A call that follows the advice to try again belongs to the
read before. -/
def chunkReads : List Call → Nat
  | [] => 0
  | call :: earlier =>
    if call.isReceive && !isMidRead earlier then chunkReads earlier + 1 else chunkReads earlier

/-- No more than so many chunks have been asked for, and no read is under way. -/
structure Listened (n : Nat) (calls : List Call) : Prop where
  reads_le : chunkReads calls ≤ n
  settled : isMidRead calls = false

theorem Listened.mono {m : Nat} (h : Listened n calls) (hle : n ≤ m) :
  Listened m calls
  := ⟨Nat.le_trans h.reads_le hle, h.settled⟩

/-- A call that asks for nothing ends the read before. -/
theorem listened_cons {call : Call} (hcall : call.isReceive = false) (h : chunkReads calls ≤ n) :
  Listened n (call :: calls)
  := by
  constructor
  · rw [chunkReads, hcall]
    exact h
  · cases call with
    | receive _ _ => cases hcall
    | _ => rfl

theorem Transport.keepsUnread_listened (t : Transport σ) (n : Nat) :
  t.KeepsUnread fun _ calls => Listened n calls
  := by
  constructor
  all_goals
    intros
    apply Act.Ensures.perform
    intro _ _ h
    exact listened_cons rfl h.reads_le

namespace Session

/-- Closing a connection ends the read that was under way. -/
theorem disconnect_listened {session : Session} (hconnected : session.isConnected = true) :
  Act.Ensures (fun _ calls => chunkReads calls ≤ n) (session.disconnect t)
    fun _ _ calls => Listened n calls
  := by
  unfold disconnect
  split
  case h_1 hstage => simp [isConnected, hstage] at hconnected
  case h_2 hstage => simp [isConnected, hstage] at hconnected
  case h_3 =>
    apply Act.Ensures.bind_perform fun _ _ calls => Listened n calls
    · exact fun _ _ h => listened_cons rfl h
    intro _
    apply Act.Ensures.bind_report
    exact .pure fun _ _ h => h

theorem finish_listened (t : Transport σ) (session : Session) (n : Nat) :
  (session.finish t).Keeps fun _ calls => Listened n calls
  := (finish_closed (t.keepsUnread_listened n) session).imp_right fun _ _ _ h => h.2

/-- One call of a read leaves the read settled, unless it is to be tried again. -/
theorem receive_round {F : List Call → Prop} (t : Transport σ) {capacity : Nat}
    (hround : ∀ calls, F calls → ∀ progress, chunkReads (.receive capacity progress :: calls) ≤ n) :
  Act.Ensures (fun _ calls => F calls) (perform (t.receive capacity) (.receive capacity))
    (Progress.Allows (fun _ calls => chunkReads calls ≤ n ∧ isMidRead calls = true)
      fun answer _ calls => chunkReads calls ≤ n
        ∧ (answer.isOk = true → isMidRead calls = false))
  := by
  apply Act.Ensures.perform
  intro site calls hF
  have hreads := hround calls hF
  generalize (t.receive capacity site).1 = progress
  cases progress with
  | ready bytes => exact ⟨hreads _, fun _ => rfl⟩
  | retry spent => exact ⟨hreads _, rfl⟩
  | failed text => exact fun _ => ⟨hreads _, nofun⟩

/-- Reading a chunk is one read, however often it is tried. -/
theorem readChunk_listened (t : Transport σ) (session : Session) (capacity index n : Nat) :
  Act.Ensures (fun _ calls => Listened n calls) (session.readChunk t capacity index)
    fun _ _ calls => Listened (n + 1) calls
  := by
  unfold readChunk
  split
  case isFalse => exact .pure fun _ _ h => h.mono (Nat.le_succ n)
  case isTrue hconnected =>
    apply Act.Ensures.bind (R := fun answer _ calls =>
      chunkReads calls ≤ n + 1 ∧ (answer.isOk = true → isMidRead calls = false))
    · -- The first call begins the read, and those that follow go on with it.
      apply Act.Ensures.retry_first
        (I := fun _ calls => chunkReads calls ≤ n + 1 ∧ isMidRead calls = true)
      · apply receive_round t
        intro calls h progress
        rw [chunkReads, h.settled]
        exact Nat.succ_le_succ h.reads_le
      · apply receive_round t
        rintro calls ⟨hcount, hmid⟩ progress
        rw [chunkReads, hmid]
        exact hcount
      · intro fault _ _ h
        refine ⟨h.1, fun hok => ?_⟩
        cases hok
    rintro (fault | _ | ⟨b, rest⟩)
    · apply Act.Ensures.bind_report
      apply Act.Ensures.map
      apply (disconnect_listened hconnected).imp_left
      exact fun _ _ h => h.1
    · apply Act.Ensures.bind_report
      apply Act.Ensures.map
      apply (disconnect_listened hconnected).imp_left
      exact fun _ _ h => h.1
    · apply Act.Ensures.bind_report
      exact .pure fun _ _ h => ⟨h.1, h.2 rfl⟩

end Session

/-! ### Chunks that a buffer can take -/

namespace Reception

/-- How many more chunks, none of them empty, are asked for at most until a response or its next
fragment has come, or a chunk does not fit. The head fills the buffer once. A body that is collected
fills it once more, while any byte of one that is streamed is handed out at once. -/
def readsLeft (r : Reception) : Nat :=
  let room := r.buffer.capacity - r.held
  match r.delivery, r.head with
  | .whole, none => room + r.buffer.capacity + 1
  | .whole, some _ => room + 1
  | .streamed, none => room + 1
  | .streamed, some _ => 1

theorem readsLeft_pos (r : Reception) :
  0 < r.readsLeft
  := by
  unfold readsLeft
  split
  all_goals apply Nat.succ_pos

theorem readsLeft_start_whole (capacity : Nat) :
  (start .whole capacity).readsLeft = 2 * capacity + 1
  := by
  simp only [readsLeft, start]
  omega

theorem readsLeft_streamed_le {r : Reception} (hstreamed : r.delivery = .streamed) :
  r.readsLeft ≤ r.buffer.capacity + 1
  := by
  unfold readsLeft
  rw [hstreamed]
  cases r.head with
  | none =>
      dsimp only
      omega
  | some _ =>
      dsimp only
      omega

/-- A streamed body is handed out as soon as any of it is held. -/
theorem held_of_offer_streamed {r : Reception} {head : Head} (hstreamed : r.delivery = .streamed)
    (h : r.offer head = .needMore) :
  r.held = 0
  := by
  rw [offer_streamed hstreamed] at h
  split at h
  case isTrue => cases h
  case isFalse hzero => apply Nat.eq_zero_of_not_pos hzero

/-- A chunk after which more are needed is one of those that were left. -/
theorem Takes.readsLeft_lt {r after : Reception} {chunk : Bytes}
    {answer : Except ProtocolFault Feed} (h : r.Takes chunk after answer)
    (hanswer : answer = .ok .needMore) (hchunk : chunk ≠ [])
    (hfits : r.held + chunk.length ≤ r.buffer.capacity) :
  after.readsLeft < r.readsLeft
  := by
  have hlength : 0 < chunk.length := List.length_pos_iff.mpr hchunk
  cases h with
  | body hhead hafter =>
      subst hafter
      have hwhole : r.delivery = .whole := by
        cases hdelivery : r.delivery with
        | whole => rfl
        | streamed =>
            have hheld := held_of_offer_streamed (by exact hdelivery) (Except.ok.inj hanswer)
            simp only [append] at hheld
            omega
      simp only [readsLeft, append, hwhole, hhead, Buffer.capacity_write]
      omega
  | unfinished hnone _ =>
      cases hdelivery : r.delivery with
      | whole =>
          simp only [readsLeft, append, hdelivery, hnone, Buffer.capacity_write]
          omega
      | streamed =>
          simp only [readsLeft, append, hdelivery, hnone, Buffer.capacity_write]
          omega
  | rejected _ _ _ => cases hanswer
  | accepted hnone _ _ hafter =>
      subst hafter
      cases hdelivery : r.delivery with
      | whole =>
          simp only [readsLeft, append, enterBody, hdelivery, hnone, Buffer.capacity_write]
          omega
      | streamed =>
          simp only [readsLeft, append, enterBody, hdelivery, hnone]
          omega

theorem feed_readsLeft_lt {r after : Reception} {index : Nat} {chunk : Bytes} (hchunk : chunk ≠ [])
    (hfeed : r.feed index chunk = (after, .ok .needMore)) :
  after.readsLeft < (if index = 0 then r.restart else r).readsLeft
  := by
  cases feeds_of_feed hfeed with
  | taken hstart hfits htakes =>
      subst hstart
      exact htakes.readsLeft_lt rfl hchunk hfits

end Reception

namespace Client

/-! ### Listening for a file -/

/-- A file is collected, or is not, with the chunks that its buffer can take. -/
theorem collect_listened (t : Transport σ) (session : Session) (r : Reception) (index n : Nat) :
  Act.Ensures (fun _ calls => Listened n calls) (collect t session r index) fun _ _ calls =>
    Listened (n + (if index = 0 then r.restart else r).readsLeft) calls
  := by
  induction session, r, index using collect.induct generalizing n with
  | case1 session r index ih =>
      have hpos : n + 1 ≤ n + (if index = 0 then r.restart else r).readsLeft :=
        Nat.add_le_add_left (Reception.readsLeft_pos _) n
      rw [collect]
      apply (Session.readChunk_listened t session chunkCapacity index n).bind
      rintro ⟨session, fault | _ | chunk⟩
      · exact .pure fun _ _ h => h.mono hpos
      · exact .pure fun _ _ h => h.mono hpos
      · dsimp only
        apply Act.Ensures.bind_reportAll
        split
        case h_1 =>
          apply Act.Ensures.map
          exact (Session.finish_listened t session (n + 1)).imp_right fun _ _ _ h => h.mono hpos
        case h_2 after heq =>
          have hlt := Reception.feed_readsLeft_lt chunk.bytes_ne heq
          apply (ih session chunk after heq (n + 1)).imp_right
          intro _ _ _ h
          apply h.mono
          rw [if_neg (Nat.succ_ne_zero index)]
          omega
        case h_3 =>
          apply Act.Ensures.map
          exact (Session.finish_listened t session (n + 1)).imp_right fun _ _ _ h => h.mono hpos

theorem fetch_listened (t : Transport σ) (client : Client) (request : Request) (capacity n : Nat) :
  Act.Ensures (fun _ calls => Listened n calls) (client.fetch t request capacity)
    fun _ _ calls => Listened (n + (2 * capacity + 1)) calls
  := by
  apply fetch_ensures (Q := fun _ _ calls => Listened (n + (2 * capacity + 1)) calls)
    (begin_keeps (t.keepsUnread_listened n) client.session request)
  · exact fun _ _ _ _ h => h.mono (Nat.le_add_right n _)
  · intro session
    rw [← Reception.readsLeft_start_whole]
    apply collect_listened t session (.start .whole capacity) 0 n

namespace Stream

variable {capacity : Nat} {stream : Stream} {answers : List Answer} {chunks : List Bytes}

/-! ### Listening for a fragment -/

/-- The next fragment comes, or does not, with the chunks that the buffer can take. -/
theorem receive_listened (t : Transport σ) (stream : Stream) (n : Nat) :
  Act.Ensures (fun _ calls => Listened n calls) (stream.receive t) fun _ _ calls =>
    Listened (n + (if stream.index = 0 then stream.reception.restart
      else stream.reception).readsLeft) calls
  := by
  induction stream using receive.induct generalizing n with
  | case1 stream r ih =>
      have hpos : n + 1 ≤ n + (if stream.index = 0 then stream.reception.restart
          else stream.reception).readsLeft :=
        Nat.add_le_add_left (Reception.readsLeft_pos _) n
      rw [receive]
      apply (Session.readChunk_listened t stream.session chunkCapacity stream.index n).bind
      rintro ⟨session, fault | _ | chunk⟩
      · exact failed_ensures fun _ _ h => h.mono hpos
      · dsimp only
        split
        · exact .pure fun _ _ h => h.mono hpos
        · exact failed_ensures fun _ _ h => h.mono hpos
      · dsimp only
        apply Act.Ensures.bind_reportAll
        split
        case h_1 =>
          apply Act.Ensures.bind (Session.finish_listened t session (n + 1))
          intro _
          exact failed_ensures fun _ _ h => h.mono hpos
        case h_2 after heq =>
          split
          case isTrue =>
            apply Act.Ensures.map
            exact (Session.finish_listened t session (n + 1)).imp_right fun _ _ _ h => h.mono hpos
          case isFalse =>
            have hlt := Reception.feed_readsLeft_lt chunk.bytes_ne heq
            apply (ih session chunk after heq (n + 1)).imp_right
            intro _ _ _ h
            apply h.mono
            rw [if_neg (by simp [Stream.advance])]
            change n + 1 + after.readsLeft ≤ _
            omega
        case h_3 => exact .pure fun _ _ h => h.mono hpos

/-- A call of `next` asks for no more chunks than the buffer has bytes, and one. -/
theorem next_listened (t : Transport σ) (n : Nat)
    (hstreamed : stream.reception.delivery = .streamed)
    (hcapacity : stream.reception.buffer.capacity = capacity) :
  Act.Ensures (fun _ calls => Listened n calls) (stream.next t) fun _ _ calls =>
    Listened (n + (capacity + 1)) calls
  := by
  have hreceive : ∀ start : Stream, start.reception.delivery = .streamed →
      start.reception.buffer.capacity = capacity →
      Act.Ensures (fun _ calls => Listened n calls) (start.receive t) fun _ _ calls =>
        Listened (n + (capacity + 1)) calls := by
    intro start hdelivery hbuffer
    apply (receive_listened t start n).imp_right
    intro _ _ _ h
    apply h.mono
    apply Nat.add_le_add_left
    rw [← hbuffer]
    split
    · exact Reception.readsLeft_streamed_le hdelivery
    · exact Reception.readsLeft_streamed_le hdelivery
  unfold next
  split
  case isTrue =>
    dsimp only
    split
    case isTrue =>
      apply Act.Ensures.map
      apply (Session.finish_listened t stream.session n).imp_right
      exact fun _ _ _ h => h.mono (Nat.le_add_right n _)
    case isFalse =>
      apply hreceive { stream with isDelivered := false, reception := stream.reception.drain }
        hstreamed hcapacity
  case isFalse => apply hreceive stream hstreamed hcapacity

/-- Each of so many calls of `next` adds no more than its own reads. -/
theorem nexts_listened (t : Transport σ) (count n : Nat) (stream : Stream) :
  Act.Ensures
    (fun _ calls => Listened n calls ∧ stream.Rests capacity answers (reads calls))
    (nexts t count stream)
    fun _ _ calls => Listened (n + count * (capacity + 1)) calls
  := by
  induction count generalizing n answers stream with
  | zero => exact .pure fun _ _ h => h.1.mono (Nat.le_add_right n _)
  | succ count ih =>
      apply Act.Ensures.of_forall
      rintro state calls ⟨hlistened, hrests⟩
      rw [nexts]
      apply Act.Ensures.bind
      · apply ((next_listened t n hrests.streamed hrests.capacity_eq).both
          (next_rests stream)).imp_left
        rintro _ _ ⟨-, rfl⟩
        exact ⟨hlistened, hrests⟩
      rintro ⟨after, answer⟩
      apply Act.Ensures.map
      apply (ih (n + (capacity + 1)) after).imp_right
      intro _ _ _ h
      apply h.mono
      rw [Nat.succ_mul]
      omega

/-! ### Counting fragments -/

/-- Whether an answer is a fragment of the body. -/
def isData : Answer → Bool
  | .ok (some (.data _)) => true
  | _ => false

/-- How many fragments a response can be handed out in: as many as it declares bytes, and one that
it has not declared if it declares none. -/
def fragmentLimit (bytes : Bytes) : Nat :=
  match response? bytes with
  | none => 0
  | some (head, _) => max 1 head.contentLength.toNat

/-- More bytes do not change a head that has arrived. -/
theorem fragmentLimit_mono {bytes all : Bytes} (h : bytes <+: all) :
  fragmentLimit bytes ≤ fragmentLimit all
  := by
  obtain ⟨more, rfl⟩ := h
  cases hresponse : response? bytes with
  | none =>
      rw [fragmentLimit, hresponse]
      apply Nat.zero_le
  | some response =>
      rw [fragmentLimit, fragmentLimit, hresponse, response?_append hresponse more]

/-- A stream has handed out at least one byte with each fragment. -/
theorem countP_isData_le (h : .ok (some (.data [])) ∉ answers) :
  answers.countP isData ≤ (handed answers).length
  := by
  induction answers with
  | nil => apply Nat.zero_le
  | cons answer answers ih =>
      obtain ⟨hne, hlater⟩ := not_or.mp (mt List.mem_cons.mpr h)
      specialize ih hlater
      rw [List.countP_cons, handed, List.flatMap_cons, List.length_append]
      have hgiven : (if isData answer then 1 else 0) ≤ (given answer).length := by
        split
        case isTrue hdata =>
          rcases answer with fault | _ | ⟨_ | _⟩ | _
          · cases hdata
          · cases hdata
          · apply absurd rfl hne
          · apply Nat.succ_pos
          · cases hdata
        case isFalse => apply Nat.zero_le
      rw [handed] at ih
      omega

/-- A stream that has handed out no more fragments than the response can be handed out in. -/
structure Frugal (stream : Stream) (capacity : Nat) (answers : List Answer)
    (chunks : List Bytes) : Prop extends stream.Rests capacity answers chunks where
  limited : answers.countP isData ≤ fragmentLimit (arrived chunks)

/-- A stream that goes on after a fragment lacks bytes that the head declares. -/
theorem Frugal.lacking (h : stream.Frugal capacity answers chunks)
    (hdelivered : stream.isDelivered = true) (hincomplete : stream.reception.bodyComplete = false) :
  answers.countP isData < fragmentLimit (arrived chunks)
  := by
  obtain ⟨hconnected, -, hhead⟩ := h.delivered hdelivered
  obtain ⟨head, hhead⟩ := Option.isSome_iff_exists.mp hhead
  have hresponse := h.follows.response_eq
  rw [hhead, taken_of_unrefused (h.unrefused hconnected)] at hresponse
  rw [Reception.bodyComplete, hhead, h.follows.received_eq] at hincomplete
  have hcount := countP_isData_le h.data_ne
  rw [fragmentLimit, hresponse]
  simp only [decide_eq_false_iff_not] at hincomplete
  change _ < max 1 head.contentLength.toNat
  omega

/-- A response that a fragment has been handed out of has an accepted head. -/
theorem Tracks.fragmentLimit_pos (h : stream.Tracks capacity answers chunks)
    (hdata : 0 < answers.countP isData) :
  0 < fragmentLimit (arrived chunks)
  := by
  have hhanded := Nat.lt_of_lt_of_le hdata (countP_isData_le h.data_ne)
  have hresponse := h.follows.response_eq
  cases hhead : stream.reception.head with
  | none =>
      rw [h.follows.body_eq hhead] at hhanded
      cases hhanded
  | some head =>
      rw [hhead] at hresponse
      apply Nat.lt_of_lt_of_le _ (fragmentLimit_mono (taken_start answers chunks))
      rw [fragmentLimit, hresponse]
      apply Nat.lt_of_lt_of_le Nat.one_pos (Nat.le_max_left 1 _)

/-- An answer is not a fragment too many if it is none, if there was room for one, or if it is the
first. -/
theorem Frugal.answered {after : Stream} {answer : Answer} {later : List Bytes}
    (h : stream.Frugal capacity answers chunks)
    (hafter : after.Rests capacity (answers ++ [answer]) later)
    (hgrown : arrived chunks <+: arrived later)
    (hroom : isData answer = false ∨ answers.countP isData < fragmentLimit (arrived chunks)
      ∨ answers = []) :
  after.Frugal capacity (answers ++ [answer]) later
  := by
  refine ⟨hafter, ?_⟩
  have hmono := fragmentLimit_mono hgrown
  have hone : [answer].countP isData ≤ 1 := List.countP_le_length
  rw [List.countP_append]
  rcases hroom with hquiet | hroom | rfl
  · have hnone : [answer].countP isData = 0 := by
      rw [List.countP_singleton, hquiet]
      rfl
    have hlimited := h.limited
    omega
  · omega
  · by_cases hdata : 0 < [answer].countP isData
    · have hpos := hafter.fragmentLimit_pos (by simpa using hdata)
      rw [List.countP_nil]
      omega
    · rw [List.countP_nil]
      omega

/-- One more call of `next` hands out no fragment too many. -/
theorem next_frugal (stream : Stream) :
  Act.Ensures (fun _ calls => stream.Frugal capacity answers (reads calls)) (stream.next t)
    (fun r _ calls => r.1.Frugal capacity (answers ++ [r.2]) (reads calls))
  := by
  apply Act.Ensures.of_forall
  intro state calls h
  have hstep : Act.Ensures (fun s c => s = state ∧ c = calls) (stream.next t) fun r _ later =>
      r.1.Rests capacity (answers ++ [r.2]) (reads later)
        ∧ arrived (reads calls) <+: arrived (reads later) := by
    apply ((next_rests stream).both
      (next_keeps (Session.Transport.keeps_suffix t calls) stream)).imp
    · rintro _ _ ⟨-, rfl⟩
      exact ⟨h.toRests, List.suffix_refl _⟩
    · rintro _ _ _ ⟨hrests, made, rfl⟩
      refine ⟨hrests, ?_⟩
      rw [reads_append, arrived_append]
      apply List.prefix_append
  by_cases hconnected : stream.session.isConnected = true
  · by_cases hdelivered : stream.isDelivered = true
    · by_cases hcomplete : stream.reception.bodyComplete = true
      · apply ((next_complete (P := fun _ _ => True) hdelivered hcomplete).both hstep).imp
        · exact fun _ _ hscene => ⟨trivial, hscene⟩
        · rintro _ _ _ ⟨⟨hanswer, -⟩, hafter, hgrown⟩
          apply h.answered hafter hgrown
          left
          rw [hanswer]
          rfl
      · have hlacking := h.lacking hdelivered (Bool.eq_false_iff.mpr hcomplete)
        apply hstep.imp_right
        rintro _ _ _ ⟨hafter, hgrown⟩
        exact h.answered hafter hgrown (.inr (.inl hlacking))
    · obtain ⟨-, -, hfirst, -⟩ := h.fresh hconnected (Bool.eq_false_iff.mpr hdelivered)
      apply hstep.imp_right
      rintro _ _ _ ⟨hafter, hgrown⟩
      exact h.answered hafter hgrown (.inr (.inr hfirst))
  · have hover : stream.Over :=
      ⟨Bool.eq_false_iff.mpr hconnected,
        Bool.eq_false_iff.mpr fun hdelivered => hconnected (h.delivered hdelivered).1⟩
    apply ((next_over (I := fun _ _ => True) hover).both hstep).imp
    · exact fun _ _ hscene => ⟨trivial, hscene⟩
    · rintro _ _ _ ⟨⟨hr, -⟩, hafter, hgrown⟩
      apply h.answered hafter hgrown
      left
      rw [hr]
      unfold lasting
      split <;> rfl

/-- So many calls of `next` give as many answers, and no fragment too many. -/
theorem nexts_frugal (count : Nat) (stream : Stream) :
  Act.Ensures (fun _ calls => stream.Frugal capacity answers (reads calls)) (nexts t count stream)
    (fun r _ calls => r.2.length = count
      ∧ r.1.Frugal capacity (answers ++ r.2) (reads calls))
  := by
  induction count generalizing stream answers with
  | zero =>
      apply Act.Ensures.pure
      intro _ _ h
      rw [List.append_nil]
      exact ⟨rfl, h⟩
  | succ count ih =>
      rw [nexts]
      apply (next_frugal stream).bind
      rintro ⟨after, answer⟩
      apply Act.Ensures.map
      apply (ih after).imp_right
      rintro r _ _ ⟨hlength, h⟩
      rw [List.append_cons, List.length_cons, hlength]
      exact ⟨rfl, h⟩

end Stream

/-- For every transport, whatever it answers and even if the peer never closes the connection:
* a file is fetched, or is not, with at most one chunk more than twice the size of the buffer;
* each call of `next`, after any number of them, asks for at most one chunk more than the size of
  the buffer;
* of all that a stream answers, no more are fragments than the head declares bytes, one if it
  declares none, and what comes after them is the end or errors. -/
theorem listening_bounded (t : Transport σ) (client : Client) (request : Request) (capacity : Nat)
    (opening : Site σ) :
  chunkReads (client.fetch t request capacity { toSite := opening }).2.calls ≤ 2 * capacity + 1
    ∧ ∀ (after : Client) (stream : Stream) (opened : Scene σ),
      client.openStream t request capacity { toSite := opening } = ((after, .ok stream), opened) →
      ∀ (count : Nat) (rest : Stream) (answers : List Answer) (last : Scene σ),
        Stream.nexts t count stream opened = ((rest, answers), last) →
        chunkReads (rest.next t last).2.calls ≤ chunkReads last.calls + (capacity + 1)
          ∧ ∃ (fragments : List Bytes) (ending : List Answer),
            answers = fragments.map (fun bytes => .ok (some (.data bytes))) ++ ending
              ∧ Ending ending
              ∧ fragments.length ≤ Stream.fragmentLimit (arrived (reads last.calls))
              ∧ (Stream.fragmentLimit (arrived (reads last.calls)) < count → ending ≠ [])
  := by
  constructor
  · have hlistened := (fetch_listened t client request capacity 0).run { toSite := opening }
      ⟨Nat.le_refl 0, rfl⟩
    rw [Nat.zero_add] at hlistened
    exact hlistened.reads_le
  intro after stream opened hopened count rest answers last hnexts
  obtain ⟨hfresh, ⟨-, hrests⟩, hopening⟩ :=
    ((openStream_fresh (t := t) client request capacity).both
      ((openStream_rests client request capacity).both
        (openStream_keeps (t.keepsUnread_listened 0) client request capacity))).run
    { toSite := opening } ⟨trivial, rfl, Nat.le_refl 0, rfl⟩
  rw [hopened] at hfresh hrests hopening
  have hfrugal := hrests stream rfl
  have hstart : stream.Frugal capacity [] (reads opened.calls) := ⟨hfrugal, Nat.zero_le _⟩
  obtain ⟨hinOrder, ⟨hlength, hlast⟩, hlistened⟩ :=
    ((Stream.nexts_inOrder (t := t) (hfresh stream rfl).live count).both
      ((Stream.nexts_frugal (t := t) count stream).both
        (Stream.nexts_listened t count 0 stream))).run opened
    ⟨trivial, hstart, hopening, hfrugal⟩
  rw [hnexts] at hinOrder hlength hlast hlistened
  constructor
  · apply ((Stream.next_listened t (chunkReads last.calls) hlast.streamed hlast.capacity_eq).run
      last ⟨Nat.le_refl _, hlistened.settled⟩).reads_le
  obtain ⟨fragments, ending, rfl, -, hending, -⟩ := hinOrder
  have hcount : fragments.length ≤ Stream.fragmentLimit (arrived (reads last.calls)) := by
    apply Nat.le_trans _ hlast.limited
    rw [List.nil_append, List.countP_append, List.countP_map, List.countP_eq_length.mpr]
    · apply Nat.le_add_right
    · exact fun _ _ => rfl
  refine ⟨fragments, ending, rfl, hending, hcount, ?_⟩
  rintro hmore rfl
  rw [List.append_nil, List.length_map] at hlength
  omega

/-- A response that declares one byte is streamed, and one that is not sent is waited for. -/
theorem listening_bounded_sample :
  ∃ (after : Client) (stream rest : Stream) (opened last : Scene (List Arrival)),
    Bench.Rig.sampleWorker.client.openStream Bench.waiting.transport Bench.imageRequest 4096
        { state := [.chunk (Bench.okResponse [65])] }
      = ((after, .ok stream), opened)
    ∧ Stream.nexts Bench.waiting.transport 3 stream opened
      = ((rest, [.ok (some (.data [65])), .ok (some .finished), .ok none]), last)
    ∧ 1 ≤ Stream.fragmentLimit (arrived (reads last.calls))
    ∧ chunkReads (rest.next Bench.waiting.transport last).2.calls ≤ chunkReads last.calls + 4097
  := by
  obtain ⟨after, stream, opened, hopened, hfresh, hstate, hreads⟩ :=
    Stream.openStream_waiting (Bench.okResponse [65]) (by decide +kernel)
  have hresponse : response? (Bench.okResponse [65]) = some (⟨1, 1, 200, 1⟩, [65]) := by
    decide +kernel
  have hwhole := (Stream.nexts_whole Bench.waiting_delivers hfresh (by decide +kernel)
    (by decide +kernel) hresponse (by decide) (by decide) 1).run opened ⟨hstate, hreads⟩
  rcases hnexts : Stream.nexts Bench.waiting.transport 3 stream opened with ⟨⟨rest, answers⟩, last⟩
  rw [hnexts] at hwhole
  obtain rfl := hwhole
  obtain ⟨-, hstream⟩ := listening_bounded Bench.waiting.transport Bench.Rig.sampleWorker.client
    Bench.imageRequest 4096 { state := [.chunk (Bench.okResponse [65])] }
  obtain ⟨hpatient, fragments, ending, hanswers, hending, hcount, -⟩ :=
    hstream after stream opened hopened 3 rest _ last hnexts
  refine ⟨after, stream, rest, opened, last, hopened, hnexts, ?_, hpatient⟩
  apply Nat.le_trans _ hcount
  cases fragments with
  | nil =>
      obtain rfl := hanswers
      cases hending
  | cons first more => apply Nat.succ_pos

end Client

end FirmwareUpdate
