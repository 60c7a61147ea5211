import FirmwareUpdate.Proofs.Http.Conclusion
import FirmwareUpdate.Proofs.Line.Session

/-!
# Clients on a line

What a client collects from a line, and the fragments that it streams, are computed from the chunks
on the line. Apart from reading, nothing is done but closing the connection.
-/

namespace FirmwareUpdate

variable {σ : Type} {t : Transport σ}

/-- The chunks of a line each of which is read at once. -/
def Readable (line : List Bytes) : Prop :=
  ∀ chunk ∈ line, chunk ≠ [] ∧ chunk.length ≤ Client.chunkCapacity

instance Readable.decidable (line : List Bytes) : Decidable (Readable line) :=
  inferInstanceAs (Decidable (∀ chunk ∈ line, _))

theorem Readable.tail {chunk : Bytes} {line : List Bytes} (h : Readable (chunk :: line)) :
  Readable line
  := fun other hother => h other (List.mem_cons_of_mem _ hother)

namespace Client

variable {session : Session} {pin : Pin} {s s' : Scene (σ × List Bytes)} {line : List Bytes}

/-- What is collected from a line. -/
theorem collect_onLine (hstage : session.stage = .connected pin) (r : Reception) (index : Nat)
    (hline : s.state.2 = line) (hreadable : Readable line) (halike : Alike s s') :
  Coincide (collect t.onLine session r index s)
    ((session.disconnect t.onLine >>= fun session => pure (session, gather r index line)) s')
  := by
  -- However the reading ends, the connection is closed and the answer given.
  have hends : ∀ (result : Except Fault Bytes) {s : Scene (σ × List Bytes)}, Alike s s' →
      Coincide ((session.disconnect t.onLine >>= fun session => pure (session, result)) s)
        ((session.disconnect t.onLine >>= fun session => pure (session, result)) s') := by
    intro result s halike
    apply ((Session.disconnect_aside session).coincide halike).bind
    intro _
    apply Act.Aside.of_composed (.pure _)
  induction line generalizing s r index with
  | nil =>
      obtain ⟨after, hread, hafter⟩ := Session.readChunk_nil hstage index hline
      rw [collect, Act.bind_eq hread]
      refine ⟨?_, hafter.trans (hends (gather r index []) halike).alike⟩
      exact Prod.ext (Session.disconnect_connected hstage).symm rfl
  | cons chunk line ih =>
      have hchunk := hreadable chunk List.mem_cons_self
      obtain ⟨after, hread, hafter, hrest⟩ := Session.readChunk_cons (t := t) hstage index hline
        hchunk.1 (hline ▸ fun chunk hmem => (hreadable chunk hmem).2)
      have halike := fun notes => (hafter.withNotes notes).trans halike
      rw [collect, Act.bind_eq hread]
      dsimp only
      rw [Act.reportAll_bind, gather]
      split
      case h_1 heq =>
        rw [heq, Session.finish_connected hstage]
        apply hends _ (halike _)
      case h_2 heq =>
        rw [heq]
        exact ih _ _ hrest hreadable.tail (halike _)
      case h_3 heq =>
        rw [heq, Session.finish_connected hstage]
        apply hends _ (halike _)

end Client

end FirmwareUpdate
