import FirmwareUpdate.Proofs.Hesitation.Session
import FirmwareUpdate.Proofs.Http.Course

/-!
# Clients over transports that hesitate

A client reaches its transport through its session only, so it fetches and streams the same however
the transport hesitates.
-/

namespace FirmwareUpdate.Client

variable {σ τ : Type} {t : Transport σ} {whims whims' : Whims σ τ} {timeout : Duration}
  {session : Session}
  (ht : t.Straight) (hwhims : whims.Bearable timeout) (hwhims' : whims'.Bearable timeout)

include ht hwhims hwhims'

theorem begin_hesitating (hsession : session.timeout = timeout) (request : Request) :
  (begin (t.hesitating whims) session request).Parallel
    (begin (t.hesitating whims') session request)
  := by
  have hcourse := Session.course_timeout (t.hesitating whims) timeout
  apply (Session.connect_hesitating ht hwhims hwhims' hsession).bind_of hsession
    (Session.connect_course hcourse)
  rintro ⟨session, fault | ⟨⟩⟩ ⟨_, _, -, htimeout⟩
  · exact .pure _
  · exact Session.ask_hesitating ht hwhims hwhims' htimeout request.bytes

theorem collect_hesitating (hsession : session.timeout = timeout) (r : Reception) (index : Nat) :
  (collect (t.hesitating whims) session r index).Parallel
    (collect (t.hesitating whims') session r index)
  := by
  have hcourse := Session.course_timeout (t.hesitating whims) timeout
  induction session, r, index using collect.induct with
  | case1 session r index ih =>
      rw [collect, collect]
      apply (Session.readChunk_hesitating ht hwhims hwhims' hsession _ _).bind_of hsession
        (Session.readChunk_course hcourse _ _)
      rintro ⟨session, fault | _ | chunk⟩ ⟨_, _, -, htimeout⟩
      · exact .pure _
      · exact .pure _
      · apply Act.Parallel.bind_reportAll
        dsimp only
        split
        · exact Session.finish_hesitating.bind fun _ => .pure _
        case h_2 after heq => exact ih session chunk after heq htimeout
        · exact Session.finish_hesitating.bind fun _ => .pure _

/-- A file that is fetched is the same however the transport hesitates. -/
theorem fetch_hesitating {client : Client} (hclient : client.session.timeout = timeout)
    (request : Request) (capacity : Nat) :
  (client.fetch (t.hesitating whims) request capacity).Parallel
    (client.fetch (t.hesitating whims') request capacity)
  := by
  have hcourse := Session.course_timeout (t.hesitating whims) timeout
  unfold fetch
  apply Act.Parallel.bind_report
  apply (begin_hesitating ht hwhims hwhims' hclient request).bind_of hclient
    (begin_course hcourse request)
  rintro ⟨session, begun⟩ ⟨_, _, -, htimeout⟩
  extract_lets jp
  have hjp : ∀ r, (jp r : Act (σ × τ) _).Parallel (jp r) := by
    rintro ⟨session, fault | body⟩
    · exact .bind_reportAll (.pure _)
    · exact .bind_report (.pure _)
  clear_value jp
  obtain fault | ⟨⟩ := begun
  · simp only [pure_bind]
    apply hjp
  · exact (collect_hesitating ht hwhims hwhims' htimeout _ 0).bind hjp

theorem openStream_hesitating {client : Client} (hclient : client.session.timeout = timeout)
    (request : Request) (capacity : Nat) :
  (client.openStream (t.hesitating whims) request capacity).Parallel
    (client.openStream (t.hesitating whims') request capacity)
  := by
  unfold openStream
  apply Act.Parallel.bind_report
  apply (begin_hesitating ht hwhims hwhims' hclient request).bind
  rintro ⟨session, fault | ⟨⟩⟩
  · exact .bind_reportAll (.pure _)
  · exact .pure _

namespace Stream

theorem receive_hesitating (stream : Stream) (hstream : stream.session.timeout = timeout) :
  (stream.receive (t.hesitating whims)).Parallel (stream.receive (t.hesitating whims'))
  := by
  have hcourse := Session.course_timeout (t.hesitating whims) timeout
  induction stream using receive.induct with
  | case1 stream r ih =>
      rw [receive, receive]
      apply (Session.readChunk_hesitating ht hwhims hwhims' hstream _ _).bind_of hstream
        (Session.readChunk_course hcourse _ _)
      rintro ⟨session, fault | _ | chunk⟩ ⟨_, _, -, htimeout⟩
      · exact .bind_reportAll (.pure _)
      · dsimp only
        split
        · exact .pure _
        · exact .bind_reportAll (.pure _)
      · dsimp only
        apply Act.Parallel.bind_reportAll
        split
        · exact Session.finish_hesitating.bind fun _ => .bind_reportAll (.pure _)
        case h_2 after heq =>
          split
          · exact Session.finish_hesitating.bind fun _ => .pure _
          · exact ih session chunk after heq htimeout
        · exact .pure _

/-- The next fragment is the same however the transport hesitates. -/
theorem next_hesitating (stream : Stream) (hstream : stream.session.timeout = timeout) :
  (stream.next (t.hesitating whims)).Parallel (stream.next (t.hesitating whims'))
  := by
  unfold next
  split
  · dsimp only
    split
    · exact Session.finish_hesitating.bind fun _ => .pure _
    · exact receive_hesitating ht hwhims hwhims' _ hstream
  · exact receive_hesitating ht hwhims hwhims' stream hstream

end Stream

end FirmwareUpdate.Client
