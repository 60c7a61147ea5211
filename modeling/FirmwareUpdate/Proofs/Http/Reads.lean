import FirmwareUpdate.Proofs.Http.Frame

/-!
# What has been read

The record of calls tells what has been read of a response. Only reading a chunk adds to it, and
a connection that has been closed is not read any more.
-/

namespace FirmwareUpdate

variable {σ : Type} {I : Assertion σ} {t : Transport σ} {chunks : List Bytes}

/-- The bytes that a call has read. -/
def Call.read? : Call → Option Bytes
  | .receive _ (.ready bytes) => some bytes
  | _ => none

/-- The chunks that have been read, the latest first. -/
def reads (calls : List Call) : List Bytes :=
  calls.filterMap Call.read?

/-- The bytes that chunks, the latest first, have brought. -/
def arrived (chunks : List Bytes) : Bytes :=
  chunks.reverse.flatten

@[simp]
theorem arrived_cons (chunk : Bytes) (chunks : List Bytes) :
  arrived (chunk :: chunks) = arrived chunks ++ chunk
  := by
  simp [arrived]

theorem arrived_append (later chunks : List Bytes) :
  arrived (later ++ chunks) = arrived chunks ++ arrived later
  := by
  simp [arrived]

theorem reads_append (calls calls' : List Call) :
  reads (calls ++ calls') = reads calls ++ reads calls'
  := List.filterMap_append

/-- What has been read is told by other calls than reading as well. -/
theorem Transport.keepsUnread_reads (t : Transport σ) (F : List Bytes → Prop) :
  t.KeepsUnread fun _ calls => F (reads calls)
  := by
  constructor
  all_goals
    intros
    apply Act.Ensures.perform
    intro _ _ h
    apply h

namespace Session

/-- Nothing is connected after a connection has been closed. -/
theorem disconnect_closed (ht : t.KeepsUnread I) (session : Session) :
  Act.Ensures I (session.disconnect t) fun after state calls =>
    after.isConnected = false ∧ I state calls
  := by
  unfold disconnect
  split
  case h_1 hstage =>
    exact .pure fun _ _ h => ⟨by simp [isConnected, hstage], h⟩
  case h_2 hstage =>
    apply Act.Ensures.bind ht.hangUp
    intro _
    exact .pure fun _ _ h => ⟨by simp [isConnected, hstage], h⟩
  case h_3 =>
    apply Act.Ensures.bind ht.hangUp
    intro _
    apply Act.Ensures.bind_report
    exact .pure fun _ _ h => ⟨rfl, h⟩

theorem finish_closed (ht : t.KeepsUnread I) (session : Session) :
  Act.Ensures I (session.finish t) fun after state calls =>
    after.isConnected = false ∧ I state calls
  := by
  unfold finish
  split
  case isTrue => apply disconnect_closed ht
  case isFalse hclosed =>
    exact .pure fun _ _ h => ⟨by simpa using hclosed, h⟩

/-- A session that has finished is not connected, whatever has been read. -/
theorem finish_disconnects {P : Assertion σ} (session : Session) :
  Act.Ensures P (session.finish t) fun after _ _ => after.isConnected = false
  := by
  apply (finish_closed (t.keepsUnread_reads fun _ => True) session).imp
  · exact fun _ _ _ => trivial
  · exact fun _ _ _ h => h.1

/-- What has been read once the transport has answered. -/
def Answered (chunks : List Bytes) : Except Fault Bytes → List Bytes → Prop
  | .error fault, later => later = chunks ∧ ∃ text, fault = .transport text
  | .ok bytes, later => later = bytes :: chunks

/-- What a session comes to when it reads a chunk. -/
def ReadChunk (session : Session) (chunks : List Bytes) :
    Session × Except Fault (Option Chunk) → List Bytes → Prop
  | (after, .error fault), later =>
    session.isConnected = true ∧ after.isConnected = false ∧ later = chunks
      ∧ ∃ text, fault = .transport text
  | (after, .ok none), later =>
    after.isConnected = false
      ∧ (later = chunks ∨ session.isConnected = true ∧ later = [] :: chunks)
  | (after, .ok (some chunk)), later =>
    session.isConnected = true ∧ after = session ∧ later = chunk.bytes :: chunks

/-- Reading a chunk adds it to what has been read. The connection is closed when there are none
left, or reading fails. -/
theorem readChunk_reads (t : Transport σ) (session : Session) (capacity index : Nat) :
  Act.Ensures (fun _ calls => reads calls = chunks) (session.readChunk t capacity index)
    (fun r _ calls => session.ReadChunk chunks r (reads calls))
  := by
  unfold readChunk
  split
  case isTrue hconnected =>
    apply Act.Ensures.bind (R := fun answer _ calls => Answered chunks answer (reads calls))
    · apply Act.Ensures.retry
      · apply Act.Ensures.perform
        intro site calls h
        generalize (t.receive capacity site).1 = progress
        cases progress with
        | ready bytes =>
            change bytes :: reads calls = bytes :: chunks
            rw [h]
        | retry _ => apply h
        | failed _ => exact fun text => ⟨h, text, rfl⟩
      · exact fun text _ _ h => ⟨h, text, rfl⟩
    rintro (fault | _ | ⟨b, rest⟩)
    · apply Act.Ensures.bind_report
      apply Act.Ensures.map
      apply (disconnect_closed (t.keepsUnread_reads fun later =>
        later = chunks ∧ ∃ text, fault = .transport text) session).imp_right
      intro after state calls h
      obtain ⟨hclosed, hreads, htext⟩ := h
      exact ⟨hconnected, hclosed, hreads, htext⟩
    · apply Act.Ensures.bind_report
      apply Act.Ensures.map
      apply (disconnect_closed (t.keepsUnread_reads (· = [] :: chunks)) session).imp_right
      intro after state calls h
      obtain ⟨hclosed, hreads⟩ := h
      exact ⟨hclosed, Or.inr ⟨hconnected, hreads⟩⟩
    · apply Act.Ensures.bind_report
      exact .pure fun _ _ h => ⟨hconnected, rfl, h⟩
  case isFalse hclosed =>
    exact .pure fun _ _ h => ⟨by simpa using hclosed, Or.inl h⟩

end Session

end FirmwareUpdate
