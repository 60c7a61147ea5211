import FirmwareUpdate.Http.Client
import FirmwareUpdate.Proofs.Session.Frame

/-!
# What clients leave alone

A client reaches its platform through its session only, so what the transport keeps is kept
while files are fetched and streamed.
-/

namespace FirmwareUpdate.Client

variable {σ : Type} {I : Assertion σ} {B : Basis σ} {t : Transport σ}

theorem collect_composed (hB : t.Hears ≤ B) (session : Session) (r : Reception) (index : Nat) :
  (collect t session r index).Composed B
  := by
  induction session, r, index using collect.induct with
  | case1 session r index ih =>
      rw [collect]
      apply (Session.readChunk_composed hB _ _ _).bind
      rintro ⟨session, fault | _ | chunk⟩
      · apply Act.Composed.pure
      · apply Act.Composed.pure
      · dsimp only
        apply Act.Composed.bind_reportAll
        split
        · apply (Session.finish_composed (hB _ _ _ .hangUp) session).map
        case h_2 after heq => apply ih session chunk after heq
        · apply (Session.finish_composed (hB _ _ _ .hangUp) session).map

theorem begin_composed (hB : t.Unread ≤ B) (session : Session) (request : Request) :
  (begin t session request).Composed B
  := by
  unfold begin
  apply (Session.connect_composed hB session).bind
  intro connected
  split
  · apply Act.Composed.pure
  · apply Session.ask_composed hB

theorem begin_keeps (ht : t.KeepsUnread I) (session : Session) (request : Request) :
  (begin t session request).Keeps I
  := (begin_composed ht.unread_le session request).keeps le_rfl

theorem fetch_composed (hB : t.Performs ≤ B) (client : Client) (request : Request)
    (capacity : Nat) :
  (client.fetch t request capacity).Composed B
  := by
  unfold fetch
  apply Act.Composed.bind_report
  apply (begin_composed (Transport.unread_le hB) _ request).bind
  intro begun
  extract_lets jp
  have hjp : ∀ r, (jp r).Composed B := by
    rintro ⟨session, result⟩
    dsimp only [jp]
    split
    · apply Act.Composed.bind_report
      apply Act.Composed.pure
    · apply Act.Composed.bind_reportAll
      apply Act.Composed.pure
  clear_value jp
  split
  · simp only [pure_bind]
    apply hjp
  · apply (collect_composed (Transport.hears_le hB) _ _ _).bind hjp

theorem fetch_keeps (ht : t.Keeps I) (client : Client) (request : Request) (capacity : Nat) :
  (client.fetch t request capacity).Keeps I
  := (fetch_composed ht.performs_le client request capacity).keeps le_rfl

theorem openStream_composed (hB : t.Unread ≤ B) (client : Client) (request : Request)
    (capacity : Nat) :
  (client.openStream t request capacity).Composed B
  := by
  unfold openStream
  apply Act.Composed.bind_report
  apply (begin_composed hB _ request).bind
  intro begun
  split
  · apply Act.Composed.bind_reportAll
    apply Act.Composed.pure
  · apply Act.Composed.pure

theorem openStream_keeps (ht : t.KeepsUnread I) (client : Client) (request : Request)
    (capacity : Nat) :
  (client.openStream t request capacity).Keeps I
  := (openStream_composed ht.unread_le client request capacity).keeps le_rfl

namespace Stream

/-- A failure is reported, and the stream is given back. -/
theorem failed_ensures {stream : Stream} {fault : Fault}
    {Q : Stream × Except Fault (Option Fragment) → Assertion σ}
    (h : ∀ state calls, I state calls → Q (stream, .error fault) state calls) :
  Act.Ensures I (stream.failed fault) Q
  := by
  unfold failed
  apply Act.Ensures.bind_reportAll
  apply Act.Ensures.pure h

theorem failed_composed (stream : Stream) (fault : Fault) :
  (failed stream fault : Act σ _).Composed B
  := by
  unfold failed
  apply Act.Composed.bind_reportAll
  apply Act.Composed.pure

theorem receive_composed (hB : t.Hears ≤ B) (stream : Stream) :
  (stream.receive t).Composed B
  := by
  induction stream using receive.induct with
  | case1 stream r ih =>
      rw [receive]
      apply (Session.readChunk_composed hB _ _ _).bind
      rintro ⟨session, fault | _ | chunk⟩
      · apply failed_composed
      · dsimp only
        split
        · apply Act.Composed.pure
        · apply failed_composed
      · dsimp only
        apply Act.Composed.bind_reportAll
        split
        · apply (Session.finish_composed (hB _ _ _ .hangUp) session).bind
          intro _
          apply failed_composed
        case h_2 after heq =>
          split
          · apply (Session.finish_composed (hB _ _ _ .hangUp) session).map
          · apply ih session chunk after heq
        · apply Act.Composed.pure

theorem next_composed (hB : t.Hears ≤ B) (stream : Stream) :
  (stream.next t).Composed B
  := by
  unfold next
  split
  · dsimp only
    split
    · apply (Session.finish_composed (hB _ _ _ .hangUp) _).map
    · apply receive_composed hB
  · apply receive_composed hB

theorem next_keeps (ht : t.Keeps I) (stream : Stream) :
  (stream.next t).Keeps I
  := (next_composed (Transport.hears_le ht.performs_le) stream).keeps le_rfl

theorem close_composed (hB : B Unit t.hangUp fun _ => .hangUp) (stream : Stream) :
  (stream.close t).Composed B
  := Session.finish_composed hB _

theorem close_keeps (ht : t.KeepsUnread I) (stream : Stream) :
  (stream.close t).Keeps I
  := (close_composed (ht.unread_le _ _ _ .hangUp) stream).keeps le_rfl

end Stream

end FirmwareUpdate.Client
