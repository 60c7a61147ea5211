import FirmwareUpdate.Http.Client
import FirmwareUpdate.Proofs.Session.Course

/-!
# The course of a request

A client makes the operations of its transport in the order that its session gives them, and it
leaves the session without a connection when a file has been collected, a stream has been closed,
or a request has failed.
-/

namespace FirmwareUpdate.Client

variable {σ : Type} {t : Transport σ} {I J : Session → Assertion σ} {session : Session}

/-- A session is connected exactly if a request has been sent. -/
theorem begin_course (h : t.Course I J) (request : Request) :
  Act.Ensures (I session) (begin t session request) fun r => Session.Stands I r.2.isOk r.1
  := by
  unfold begin
  apply Act.Ensures.bind (Session.connect_course h)
  rintro ⟨session, fault | ⟨⟩⟩
  · exact .pure fun _ _ hI => hI
  · apply (Session.ask_course h request.bytes).imp_left
    exact fun _ _ hI => hI.2

/-- Nothing is connected any more when a body has been collected, or cannot be. -/
theorem collect_course (h : t.Course I J) (r : Reception) (index : Nat) :
  Act.Ensures (I session) (collect t session r index) fun r => Session.Stands I false r.1
  := by
  induction session, r, index using collect.induct with
  | case1 session r index ih =>
      rw [collect]
      apply Act.Ensures.bind (Session.readChunk_course h chunkCapacity index)
      rintro ⟨session, fault | _ | chunk⟩
      · exact .pure fun _ _ hI => hI
      · exact .pure fun _ _ hI => hI
      · dsimp only
        apply Act.Ensures.imp_left (P := I session)
        · apply Act.Ensures.bind_reportAll
          split
          · apply Act.Ensures.map
            exact Session.finish_course h
          case h_2 after heq => apply ih session chunk after heq
          · apply Act.Ensures.map
            exact Session.finish_course h
        · exact fun _ _ hI => hI.2

/-- What is known of a file that is fetched comes of connecting and of collecting it. -/
theorem fetch_ensures {client : Client} {request : Request} {capacity : Nat} {P : Assertion σ}
    {R : Session × Outcome → Assertion σ} {Q : Session × Except Fault Bytes → Assertion σ}
    (hbegin : Act.Ensures P (begin t client.session request) R)
    (hfailed : ∀ session fault state calls,
      R (session, .error fault) state calls → Q (session, .error fault) state calls)
    (hcollect : ∀ session,
      Act.Ensures (R (session, .ok ())) (collect t session (.start .whole capacity) 0) Q) :
  Act.Ensures P (client.fetch t request capacity) fun r => Q (r.1.session, r.2)
  := by
  unfold fetch
  apply Act.Ensures.bind_report
  apply Act.Ensures.bind hbegin
  intro begun
  extract_lets jp
  have hjp : ∀ r, Act.Ensures (Q r) (jp r) fun r => Q (r.1.session, r.2) := by
    rintro ⟨session, fault | body⟩
    · apply Act.Ensures.bind_reportAll
      exact .pure fun _ _ h => h
    · apply Act.Ensures.bind_report
      exact .pure fun _ _ h => h
  clear_value jp
  obtain ⟨session, fault | ⟨⟩⟩ := begun
  · simp only [pure_bind]
    apply (hjp (session, .error fault)).imp_left (hfailed session fault)
  · apply Act.Ensures.bind (hcollect session) hjp

/-- Nothing is connected any more when a file has been fetched, or cannot be. -/
theorem fetch_course (h : t.Course I J) (client : Client) (request : Request) (capacity : Nat) :
  Act.Ensures (I client.session) (client.fetch t request capacity)
    fun r => Session.Stands I false r.1.session
  := by
  apply fetch_ensures (Q := fun result => Session.Stands I false result.1) (begin_course h request)
  · exact fun _ _ _ _ hI => hI
  · intro session
    apply (collect_course h _ 0).imp_left
    exact fun _ _ hI => hI.2

/-- A stream has the connection of its client. -/
theorem openStream_course (h : t.Course I J) (client : Client) (request : Request)
    (capacity : Nat) :
  Act.Ensures (I client.session) (client.openStream t request capacity) fun r =>
    match r.2 with
    | .ok stream => I stream.session
    | .error _ => Session.Stands I false r.1.session
  := by
  unfold openStream
  apply Act.Ensures.bind_report
  apply Act.Ensures.bind (begin_course h request)
  rintro ⟨session, fault | ⟨⟩⟩
  · apply Act.Ensures.bind_reportAll
    exact .pure fun _ _ hI => hI
  · exact .pure fun _ _ hI => hI.2

namespace Stream

theorem receive_course (h : t.Course I J) (stream : Stream) :
  Act.Ensures (I stream.session) (stream.receive t) fun r => I r.1.session
  := by
  induction stream using receive.induct with
  | case1 stream r ih =>
      rw [receive]
      apply Act.Ensures.bind (R := fun r => I r.1)
      · apply (Session.readChunk_course h chunkCapacity stream.index).imp_right
        exact fun _ _ _ hI => hI.2
      rintro ⟨session, fault | _ | chunk⟩
      · apply Act.Ensures.bind_reportAll
        exact .pure fun _ _ hI => hI
      · dsimp only
        split
        · exact .pure fun _ _ hI => hI
        · apply Act.Ensures.bind_reportAll
          exact .pure fun _ _ hI => hI
      · dsimp only
        apply Act.Ensures.bind_reportAll
        split
        · apply Act.Ensures.bind (Session.finish_course h)
          intro _
          apply Act.Ensures.bind_reportAll
          exact .pure fun _ _ hI => hI.2
        case h_2 after heq =>
          split
          · apply Act.Ensures.map
            exact (Session.finish_course h).imp_right fun _ _ _ hI => hI.2
          · apply ih session chunk after heq
        · exact .pure fun _ _ hI => hI

theorem next_course (h : t.Course I J) (stream : Stream) :
  Act.Ensures (I stream.session) (stream.next t) fun r => I r.1.session
  := by
  unfold next
  split
  · dsimp only
    split
    · apply Act.Ensures.map
      exact (Session.finish_course h).imp_right fun _ _ _ hI => hI.2
    · apply receive_course h { stream with isDelivered := false, reception := _ }
  · apply receive_course h

theorem close_course (h : t.Course I J) (stream : Stream) :
  Act.Ensures (I stream.session) (stream.close t) (Session.Stands I false)
  := Session.finish_course h

end Stream

end FirmwareUpdate.Client
