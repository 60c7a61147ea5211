import FirmwareUpdate.Proofs.Line.Client
import FirmwareUpdate.Proofs.Worker.Operations
import FirmwareUpdate.Proofs.Worker.Pieces

/-!
# Moving an image from a line

A transfer from a line stores the fragments of the response that is under way, closes the
connection, and comes to what the stream of the fragments ends with, unless one of them cannot be
stored.
-/

namespace FirmwareUpdate

variable {σ ω : Type} {p : Platform σ ω}

namespace Transfer

open Client (Stream Fragment)

/-- Goes on with what the stream has given: a fragment is stored, and at most `count` more are
moved. -/
def accept (p : Platform σ ω) (count : Nat) (x : Transfer ω) :
    Stream × Except Fault (Option Fragment) → Act σ (Transfer ω × Outcome)
  | (stream, .error fault) => return ({ x with stream }, .error fault)
  | (stream, .ok (some (.data bytes))) =>
    store p { x with stream } bytes >>= proceed (pump p count)
  | (stream, .ok (some .finished)) | (stream, .ok none) => return ({ x with stream }, .ok ())

/-- Closes what is left of the connection, and gives what the transfer has come to. -/
def close (p : Platform σ ω) : Transfer ω × Outcome → Act σ (Session × Landing ω)
  | (x, outcome) => do return (← x.stream.close p.transport, landing (x, outcome))

/-- Goes on with what the stream has given, to the end. -/
def finish (p : Platform σ ω) (count : Nat) (x : Transfer ω)
    (r : Stream × Except Fault (Option Fragment)) : Act σ (Session × Landing ω) :=
  x.accept p count r >>= close p

/-- Closes the connection of a session, and gives what the transfer has come to. -/
def hangUp (p : Platform σ ω) (session : Session) (r : Transfer ω × Outcome) :
    Act σ (Session × Landing ω) := do
  return (← session.disconnect p.transport, landing r)

/-- Stores the fragments of a stream, and closes the connection of its session. -/
def land (p : Platform σ ω) (session : Session) (x : Transfer ω) (unreeled : List Bytes × Outcome) :
    Act σ (Session × Landing ω) :=
  x.storeAll p unreeled.1 >>= proceed (fun x => pure (x, unreeled.2)) >>= hangUp p session

theorem pump_succ (count : Nat) (x : Transfer ω) :
  pump p (count + 1) x = x.stream.next p.transport >>= x.accept p count
  := by
  rw [pump]
  congr 1
  funext r
  obtain ⟨stream, fault | _ | _ | bytes⟩ := r
  · rfl
  · rfl
  · change store p { x with stream } _ >>= _ = store p { x with stream } _ >>= _
    congr 1
    funext r
    obtain ⟨x, fault | ⟨⟩⟩ := r
    · rfl
    · rfl
  · rfl

/-- The transfer of a result with another stream. -/
def withStream (stream : Stream) (r : Transfer ω × Outcome) : Transfer ω × Outcome :=
  ({ r.1 with stream }, r.2)

theorem begin_withStream (x : Transfer ω) (stream : Stream) :
  begin p { x with stream } = withStream stream <$> x.begin p
  := by
  by_cases h : x.isStarted = true
  · rw [begin_of_started h, begin_of_started (x := { x with stream }) h, map_pure]
    rfl
  · rw [begin_of_not_started h, begin_of_not_started (x := { x with stream }) h, map_bind]
    congr 1
    funext r
    obtain ⟨programmer, fault | ⟨⟩⟩ := r
    · rfl
    · change programmer.begin p.slots >>= _ = withStream stream <$> (programmer.begin p.slots >>= _)
      rw [map_bind]
      congr 1
      funext r
      obtain ⟨programmer, fault | ⟨⟩⟩ := r
      · rfl
      · rfl

theorem keep_withStream (x : Transfer ω) (stream : Stream) (bytes : Bytes) :
  keep p { x with stream } bytes = withStream stream <$> x.keep p bytes
  := by
  rw [keep, keep, map_bind]
  congr 1
  funext r
  obtain ⟨programmer, fault | ⟨⟩⟩ := r
  · rw [kept, kept, lose, lose, map_bind]
    congr 1
    funext _
    rw [map_bind]
    congr 1
    funext r
    obtain ⟨programmer, fault | ⟨⟩⟩ := r
    · rfl
    · rfl
  · rfl

/-- What is stored does not go through the stream. -/
theorem store_withStream (x : Transfer ω) (stream : Stream) (bytes : Bytes) :
  store p { x with stream } bytes = withStream stream <$> x.store p bytes
  := by
  rw [store_eq, store_eq, begin_withStream, bind_map_left, map_bind]
  congr 1
  funext r
  obtain ⟨x, fault | ⟨⟩⟩ := r
  · rfl
  · apply keep_withStream

section

variable {pin : Pin} {s s' : Scene (σ × List Bytes)} {session : Session}

/-- A connection that has been closed is not closed again. -/
theorem close_onLine {after : Scene (σ × List Bytes)} (stream : Stream)
    (hstage : session.stage = .connected pin)
    (hafter : Alike after (session.disconnect p.transport.onLine s).2) (halike : Alike s s')
    (x : Transfer ω) (outcome : Outcome)
    (hsession : stream.session = { session with stage := .idle pin }) :
  Coincide (close p.onLine ({ x with stream }, outcome) after)
    (hangUp p.onLine session (x, outcome) s')
  := by
  have hidle : stream.session.isConnected = false := by
    rw [hsession]
    rfl
  have hclosed : session.disconnect p.transport.onLine s'
      = ({ session with stage := .idle pin }, (session.disconnect p.transport.onLine s').2) :=
    Prod.ext (Session.disconnect_connected hstage) rfl
  have hclose : close p.onLine ({ x with stream }, outcome)
      = (pure (stream.session, landing (x, outcome)) : Act (σ × List Bytes) _) := by
    rw [close, Client.Stream.close, Session.finish, hidle]
    rfl
  rw [hclose, hangUp, Platform.transport_onLine, Act.bind_eq hclosed, hsession]
  exact ⟨rfl, hafter.trans ((Session.disconnect_aside session).coincide halike).alike⟩

/-- Without fragments there is only the end of the stream. -/
theorem land_nil (session : Session) (x : Transfer ω) (outcome : Outcome) :
  x.land p session ([], outcome) = hangUp p session (x, outcome)
  := rfl

/-- What a transfer does with a fragment. -/
theorem land_cons (session : Session) (x : Transfer ω) (bytes : Bytes) (rest : List Bytes)
    (outcome : Outcome) :
  x.land p session (bytes :: rest, outcome)
    = x.store p bytes >>= fun
      | (x, .error fault) => hangUp p session (x, .error fault)
      | (x, .ok ()) => x.land p session (rest, outcome)
  := by
  unfold land
  rw [storeAll, bind_assoc, bind_assoc]
  congr 1
  funext r
  obtain ⟨x, fault | ⟨⟩⟩ := r
  · rfl
  · dsimp only
    rw [bind_assoc]
    rfl

theorem hangUp_aside (session : Session) (r : Transfer ω × Outcome) :
  (hangUp p.onLine session r).Aside
  := by
  apply Act.Aside.of_composed
  apply (Session.disconnect_composed (Transport.unread_onLine _ _ _ .hangUp) session).map

/-- A fragment is stored, and then the rest is landed. -/
theorem store_onLine {count : Nat} (stream : Stream) (unreeled : List Bytes × Outcome)
    (hstage : stream.session.stage = .connected pin) (halike : Alike s s') (x : Transfer ω)
    (bytes : Bytes)
    (hrest : ∀ (x : Transfer ω) {after after' : Scene (σ × List Bytes)},
      after.state.2 = s.state.2 → Alike after after' →
      Coincide ((pump p.onLine count { x with stream } >>= close p.onLine) after)
        (x.land p.onLine stream.session unreeled after')) :
  Coincide (x.finish p.onLine count (stream, .ok (some (.data bytes))) s)
    (x.land p.onLine stream.session (bytes :: unreeled.1, unreeled.2) s')
  := by
  have haside : (x.store p.onLine bytes).Aside :=
    .of_composed (store_composed (Slots.prepares_le Platform.slots_onLine) x bytes)
  have hline := haside.line_eq s
  obtain ⟨hanswer, hafter⟩ := haside.coincide halike
  rw [finish, accept, store_withStream, land_cons]
  cases hstored : x.store p.onLine bytes s with
  | mk r after =>
  cases hstored' : x.store p.onLine bytes s' with
  | mk r' after' =>
  rw [hstored] at hline hanswer hafter
  rw [hstored'] at hanswer hafter
  obtain rfl : r = r' := hanswer
  rw [bind_map_left, bind_assoc, Act.bind_eq hstored, Act.bind_eq hstored']
  obtain ⟨x, fault | ⟨⟩⟩ := r
  · have hclose : close p.onLine ({ x with stream }, .error fault)
        = hangUp p.onLine stream.session (x, .error fault) := by
      rw [close, Client.Stream.close, Session.finish_connected hstage]
      rfl
    dsimp only [withStream, proceed]
    rw [pure_bind, hclose]
    apply (hangUp_aside _ _).coincide hafter
  · apply hrest x hline hafter

/-- After the fragment that completes the body, the connection is closed. -/
theorem pump_complete {count : Nat} (stream : Stream)
    (hstage : stream.session.stage = .connected pin) (hdelivered : stream.isDelivered = true)
    (hcomplete : stream.reception.bodyComplete = true) (halike : Alike s s') (x : Transfer ω) :
  Coincide ((pump p.onLine (count + 1) { x with stream } >>= close p.onLine) s)
    (x.land p.onLine stream.session ([], .ok ()) s')
  := by
  rw [pump_succ, bind_assoc, Client.Stream.next, if_pos hdelivered]
  dsimp only
  rw [if_pos hcomplete, bind_assoc, Platform.transport_onLine,
    Act.bind_eq (Session.finish_eq hstage)]
  exact close_onLine
    { stream with isDelivered := false, session := { stream.session with stage := .idle pin } }
    hstage (.refl _) halike x (.ok ()) rfl

/-- After a fragment that does not complete the body, the next one is read. -/
theorem pump_incomplete {count : Nat} (stream : Stream) (hdelivered : stream.isDelivered = true)
    (hincomplete : ¬ stream.reception.bodyComplete = true) (x : Transfer ω) :
  pump p (count + 1) { x with stream } >>= close p
    = Stream.receive p.transport
        { stream with isDelivered := false, reception := stream.reception.drain }
      >>= x.finish p count
  := by
  rw [pump_succ, bind_assoc, Client.Stream.next, if_pos hdelivered]
  dsimp only
  rw [if_neg hincomplete]
  congr 1

/-- Moving an image from a line is storing the fragments that are streamed from it. -/
theorem receive_onLine {stream : Stream} {line : List Bytes} {count : Nat} (x : Transfer ω)
    (hstage : stream.session.stage = .connected pin) (hline : s.state.2 = line)
    (hreadable : Readable line) (halike : Alike s s')
    (hcount : (unreel stream.reception stream.index line).1.length ≤ count) :
  Coincide ((stream.receive p.transport.onLine >>= x.finish p.onLine count) s)
    (x.land p.onLine stream.session (unreel stream.reception stream.index line) s')
  := by
  let idle : Session := { stream.session with stage := .idle pin }
  induction line generalizing x stream count s s' with
  | nil =>
      obtain ⟨after, hread, hafter⟩ := Session.readChunk_nil hstage stream.index hline
      rw [Client.Stream.receive, bind_assoc, Act.bind_eq hread, unreel]
      dsimp only
      split
      · exact close_onLine { stream with session := idle } hstage hafter halike x _ rfl
      · exact close_onLine { stream with session := idle } hstage (hafter.withNotes _) halike x _
          rfl
  | cons chunk line ih =>
      have hchunk := hreadable chunk List.mem_cons_self
      obtain ⟨after, hread, hafter, hrest⟩ := Session.readChunk_cons (t := p.transport) hstage
        stream.index hline hchunk.1 (hline ▸ fun chunk hmem => (hreadable chunk hmem).2)
      have halike := fun notes => (hafter.withNotes notes).trans halike
      rw [Client.Stream.receive, bind_assoc, Act.bind_eq hread]
      dsimp only
      rw [bind_assoc, Act.reportAll_bind]
      rw [unreel] at hcount ⊢
      split
      case h_1 reception _ heq =>
        rw [heq, bind_assoc, Act.bind_eq (Session.finish_eq hstage)]
        exact close_onLine (stream.advance idle reception) hstage (Alike.withNotes (.refl _) _)
          (halike _) x _ rfl
      case h_2 reception heq =>
        rw [heq] at hcount ⊢
        dsimp only at hcount ⊢
        split
        case isTrue hcomplete =>
          rw [bind_assoc, Act.bind_eq (Session.finish_eq hstage)]
          exact close_onLine (stream.advance idle reception) hstage (.refl _) (halike _) x _ rfl
        case isFalse hincomplete =>
          rw [if_neg hincomplete] at hcount
          exact ih x hstage hrest hreadable.tail (halike _) hcount
      case h_3 reception _ heq =>
        rw [heq] at hcount ⊢
        dsimp only at hcount ⊢
        rw [pure_bind]
        let delivered : Stream :=
          { stream.advance stream.session reception with isDelivered := true }
        split
        case isTrue hcomplete =>
          rw [if_pos hcomplete] at hcount
          obtain ⟨count, rfl⟩ := Nat.exists_eq_add_of_le' hcount
          apply store_onLine delivered ([], .ok ()) hstage (halike _)
          intro x _ _ _ halike
          exact pump_complete delivered hstage rfl hcomplete halike x
        case isFalse hincomplete =>
          rw [if_neg hincomplete] at hcount
          obtain ⟨count, rfl⟩ := Nat.exists_eq_add_of_le' (Nat.one_le_of_lt hcount)
          apply store_onLine delivered (unreel reception.drain (stream.index + 1) line) hstage
            (halike _)
          intro x after after' hafter halike
          rw [pump_incomplete delivered rfl hincomplete]
          have hcount' := Nat.le_of_succ_le_succ hcount
          exact ih x hstage (hafter.trans hrest) hreadable.tail halike hcount'

end

end Transfer

end FirmwareUpdate
