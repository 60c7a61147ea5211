import FirmwareUpdate.Proofs.Line.Basic

/-!
# Reading from a line

A session that is connected reads the next chunk of the line; at the end of the line it closes the
connection.
-/

namespace FirmwareUpdate

variable {σ α : Type} {t : Transport σ}

theorem Act.map_eq {β : Type} {act : Act σ β} {f : β → α} {scene after : Scene σ} {b : β}
    (h : act scene = (b, after)) :
  (f <$> act) scene = (f b, after)
  := by
  change (f (act scene).1, (act scene).2) = (f b, after)
  rw [h]

/-- Where an act goes on from after notes. -/
theorem Act.reportAll_bind {notes : List Note} {next : Unit → Act σ α} {scene : Scene σ} :
  (reportAll notes >>= next) scene
    = next () { scene with notes := notes.reverse ++ scene.notes }
  := rfl

/-- An operation that is ready at once is not tried again. -/
theorem retry_of_ready {timeout : Duration} {what : String} {act : Act σ (Progress α)}
    {scene after : Scene σ} {a : α} (h : act scene = (.ready a, after)) :
  retry timeout what act scene = (.ok a, after)
  := by
  rw [retry, retryFrom, Act.bind_eq h]
  rfl

/-- The entry of an operation that has been performed. -/
theorem perform_eq {op : Op σ α} {entry : α → Call} {scene : Scene σ} {after : Site σ} {a : α}
    (h : op scene.toSite = (a, after)) :
  perform op entry scene = (a, { toSite := after, calls := entry a :: scene.calls })
  := by
  have hperform : perform op entry scene
      = ((op scene.toSite).1,
        Scene.mk (op scene.toSite).2 (entry (op scene.toSite).1 :: scene.calls)) := rfl
  rw [hperform, h]

/-- A read takes the next chunk from the line, and nothing at its end. -/
theorem receive_onLine {s : Scene (σ × List Bytes)} {capacity : Nat}
    (hlength : ∀ chunk ∈ s.state.2, chunk.length ≤ capacity) :
  ∃ after, perform (t.onLine.receive capacity) (.receive capacity) s
      = (.ready (s.state.2.headD []), after)
    ∧ Alike after s ∧ after.state.2 = s.state.2.tail
  := by
  obtain ⟨⟨⟨state, line⟩, notes⟩, calls⟩ := s
  cases line with
  | nil => exact ⟨_, rfl, ⟨rfl, rfl⟩, rfl⟩
  | cons chunk line =>
      have hchunk : chunk.length ≤ capacity := hlength chunk List.mem_cons_self
      have hread : t.onLine.receive capacity { state := (state, chunk :: line), notes }
          = (.ready chunk, { state := (state, line), notes }) := by
        simp only [Transport.onLine, readLine, List.take_of_length_le hchunk, if_pos hchunk]
      exact ⟨_, perform_eq hread, ⟨rfl, rfl⟩, rfl⟩

namespace Session

variable {session : Session} {pin : Pin} {s : Scene (σ × List Bytes)} {capacity : Nat}

/-- The session after its connection has been closed. -/
theorem disconnect_connected (hstage : session.stage = .connected pin) :
  (session.disconnect t.onLine s).1 = { session with stage := .idle pin }
  := by
  rw [disconnect, hstage]
  rfl

theorem finish_connected (hstage : session.stage = .connected pin) :
  session.finish t = session.disconnect t
  := by
  rw [finish, isConnected, hstage]
  rfl

theorem finish_eq (hstage : session.stage = .connected pin) :
  session.finish t.onLine s
    = ({ session with stage := .idle pin }, (session.disconnect t.onLine s).2)
  := by
  rw [finish_connected hstage]
  exact Prod.ext (disconnect_connected hstage) rfl

/-- Closing the connection has nothing to do with the line. -/
theorem disconnect_aside (session : Session) :
  (session.disconnect t.onLine).Aside
  := .of_composed (disconnect_composed (Transport.unread_onLine _ _ _ .hangUp) session)

/-- At the end of the line the connection is closed. -/
theorem readChunk_nil (hstage : session.stage = .connected pin) (index : Nat)
    (hline : s.state.2 = []) :
  ∃ after, session.readChunk t.onLine capacity index s
      = (({ session with stage := .idle pin }, .ok none), after)
    ∧ Alike after (session.disconnect t.onLine s).2
  := by
  obtain ⟨after, hread, halike, -⟩ := @receive_onLine _ t s capacity (by simp [hline])
  rw [hline] at hread
  have hconnected : session.isConnected = true := by
    rw [isConnected, hstage]
  rw [readChunk, if_pos hconnected, Act.bind_eq (retry_of_ready hread)]
  exact ⟨_, Prod.ext (Prod.ext (disconnect_connected hstage) rfl) rfl,
    ((disconnect_aside session).coincide (halike.withNotes _)).alike⟩

/-- The next chunk of the line is read. -/
theorem readChunk_cons (hstage : session.stage = .connected pin) (index : Nat)
    {chunk : Bytes} {line : List Bytes} (hline : s.state.2 = chunk :: line) (hne : chunk ≠ [])
    (hlength : ∀ chunk ∈ s.state.2, chunk.length ≤ capacity) :
  ∃ after, session.readChunk t.onLine capacity index s = ((session, .ok (some ⟨chunk, hne⟩)), after)
    ∧ Alike after s ∧ after.state.2 = line
  := by
  obtain ⟨after, hread, halike, hafter⟩ := receive_onLine (t := t) hlength
  rw [hline] at hread hafter
  obtain ⟨b, rest, rfl⟩ := List.exists_cons_of_ne_nil hne
  have hconnected : session.isConnected = true := by
    rw [isConnected, hstage]
  rw [readChunk, if_pos hconnected, Act.bind_eq (retry_of_ready hread)]
  exact ⟨_, rfl, halike.withNotes _, hafter⟩

end Session

end FirmwareUpdate
