import FirmwareUpdate.Proofs.Http.Conclusion
import FirmwareUpdate.Proofs.Http.Frame

/-!
# Responses that arrive with pauses

Before a chunk of a response has arrived, a read may ask any number of times to be tried again. As
long as each chunk comes before the time limit of its read is over, what is collected is computed
from the chunks alone.
-/

namespace FirmwareUpdate

variable {σ : Type}

/-- What a read finds: nothing yet, and so much time has gone by, or the next chunk. -/
inductive Arrival
  | stall (spent : Duration)
  | chunk (bytes : Bytes)
deriving DecidableEq, Repr

namespace Arrival

/-- The chunk that arrives, if one does. -/
def chunk? : Arrival → Option Bytes
  | .stall _ => none
  | .chunk bytes => some bytes

/-- The chunks that arrive. -/
def chunks (arrivals : List Arrival) : List Bytes :=
  arrivals.filterMap chunk?

/-- Every chunk comes before its read has made no progress for too long, where so many rounds of the
current read have taken so much time. -/
def Timely (timeout : Duration) : (rounds elapsed : Nat) → List Arrival → Prop
  | _, _, [] => True
  | rounds, elapsed, .stall spent :: rest =>
    elapsed + spent.nanoseconds < timeout.nanoseconds
      ∧ Timely timeout (rounds + 1) (elapsed + spent.nanoseconds + pauseAfter (rounds + 1)) rest
  | _, _, .chunk _ :: rest => Timely timeout 0 0 rest

instance Timely.decidable (timeout : Duration) : (rounds elapsed : Nat) →
    (arrivals : List Arrival) → Decidable (Timely timeout rounds elapsed arrivals)
  | _, _, [] => inferInstanceAs (Decidable True)
  | rounds, elapsed, .stall spent :: rest =>
    have := decidable timeout (rounds + 1)
      (elapsed + spent.nanoseconds + pauseAfter (rounds + 1)) rest
    inferInstanceAs (Decidable (_ ∧ _))
  | _, _, .chunk _ :: rest => decidable timeout 0 0 rest

end Arrival

open Arrival

/-- A transport at which `D arrivals` says what a connection is going to receive. A read finds the
first of it, if that fits, and nothing else takes anything away. -/
structure Transport.Delivers (t : Transport σ) (D : List Arrival → σ → Prop) : Prop where
  stall : ∀ {site : Site σ} {spent : Duration} {rest : List Arrival} (capacity : Nat),
    D (.stall spent :: rest) site.state →
      (t.receive capacity site).1 = .retry spent ∧ D rest (t.receive capacity site).2.state
  chunk : ∀ {site : Site σ} {bytes : Bytes} {rest : List Arrival} {capacity : Nat},
    D (.chunk bytes :: rest) site.state → bytes.length ≤ capacity →
      (t.receive capacity site).1 = .ready bytes ∧ D rest (t.receive capacity site).2.state
  kept : ∀ arrivals, t.KeepsUnread fun state _ => D arrivals state

namespace Transport.Delivers

variable {t : Transport σ} {D : List Arrival → σ → Prop}

/-- A read goes on until the next chunk has come. -/
theorem retryFrom (h : t.Delivers D) {timeout : Duration} {what : String} {capacity : Nat}
    {arrivals : List Arrival} {bytes : Bytes} {line : List Bytes}
    (hchunks : chunks arrivals = bytes :: line) (hfits : bytes.length ≤ capacity)
    (rounds elapsed : Nat) (htimely : Timely timeout rounds elapsed arrivals) :
  Act.Ensures (fun state _ => D arrivals state)
    (retryFrom timeout what (perform (t.receive capacity) (.receive capacity)) rounds elapsed)
    fun outcome state _ => outcome = .ok bytes
      ∧ ∃ rest, D rest state ∧ chunks rest = line ∧ Timely timeout 0 0 rest
  := by
  induction arrivals generalizing rounds elapsed with
  | nil => cases hchunks
  | cons arrival rest ih =>
      rw [FirmwareUpdate.retryFrom]
      cases arrival with
      | stall spent =>
          obtain ⟨hsoon, htimely⟩ := htimely
          apply Act.Ensures.bind
            (R := fun progress state _ => progress = .retry spent ∧ D rest state)
          · exact .perform fun site _ hsite => h.stall capacity hsite
          intro progress
          apply Act.Ensures.of_fact
          rintro rfl
          dsimp only
          rw [if_neg (Nat.not_le_of_lt hsoon)]
          apply ih hchunks _ _ htimely
      | chunk bytes =>
          obtain ⟨rfl, rfl⟩ := List.cons.inj hchunks
          apply Act.Ensures.bind
            (R := fun progress state _ => progress = .ready bytes ∧ D rest state)
          · exact .perform fun site _ hsite => h.chunk hsite hfits
          intro progress
          apply Act.Ensures.of_fact
          rintro rfl
          exact .pure fun _ _ hrest => ⟨rfl, rest, hrest, rfl, htimely⟩

/-- The next chunk is read. -/
theorem readChunk (h : t.Delivers D) {session : Session} (hconnected : session.isConnected = true)
    {capacity : Nat} {arrivals : List Arrival} {bytes : Bytes} {line : List Bytes}
    (hchunks : chunks arrivals = bytes :: line) (hne : bytes ≠ []) (hfits : bytes.length ≤ capacity)
    (index : Nat) (htimely : Timely session.timeout 0 0 arrivals) :
  Act.Ensures (fun state _ => D arrivals state) (session.readChunk t capacity index)
    fun r state _ => r = (session, .ok (some ⟨bytes, hne⟩))
      ∧ ∃ rest, D rest state ∧ chunks rest = line ∧ Timely session.timeout 0 0 rest
  := by
  obtain ⟨b, more, rfl⟩ := List.exists_cons_of_ne_nil hne
  rw [Session.readChunk, if_pos hconnected]
  apply (h.retryFrom hchunks hfits 0 0 htimely).bind
  intro outcome
  apply Act.Ensures.of_fact
  rintro rfl
  apply Act.Ensures.bind_report
  exact .pure fun _ _ hrest => ⟨rfl, hrest⟩

/-- A body that comes of the chunks is collected from what arrives. -/
theorem collect (h : t.Delivers D) {session : Session} (hconnected : session.isConnected = true)
    {r : Reception} {index : Nat} {arrivals : List Arrival} {body : Bytes}
    (hline : ∀ bytes ∈ chunks arrivals, bytes ≠ [] ∧ bytes.length ≤ Client.chunkCapacity)
    (htimely : Timely session.timeout 0 0 arrivals)
    (hbody : gather r index (chunks arrivals) = .ok body) :
  Act.Ensures (fun state _ => D arrivals state) (Client.collect t session r index)
    fun r _ _ => r.2 = .ok body
  := by
  generalize hchunks : chunks arrivals = line at hline hbody
  induction line generalizing r index arrivals with
  | nil => cases hbody
  | cons bytes line ih =>
      obtain ⟨hne, hfits⟩ := hline bytes List.mem_cons_self
      rw [Client.collect]
      apply (h.readChunk hconnected hchunks hne hfits index htimely).bind
      intro read
      apply Act.Ensures.of_fact
      rintro rfl
      apply Act.Ensures.bind_reportAll
      rw [gather] at hbody
      dsimp only
      split
      case h_1 heq =>
        rw [heq] at hbody
        cases hbody
      case h_2 after heq =>
        rw [heq] at hbody
        apply Act.Ensures.of_forall
        rintro _ _ ⟨rest, hrest, hchunks, htimely⟩
        have hlater := fun chunk hmem => hline chunk (List.mem_cons_of_mem bytes hmem)
        apply (ih htimely hchunks hlater hbody).imp_left
        rintro _ _ ⟨rfl, -⟩
        exact hrest
      case h_3 after size heq =>
        rw [heq] at hbody
        apply Act.Ensures.bind .any
        intro _
        exact .pure fun _ _ _ => hbody

end Transport.Delivers

end FirmwareUpdate
