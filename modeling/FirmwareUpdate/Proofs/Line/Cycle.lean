import FirmwareUpdate.Proofs.Http.Course
import FirmwareUpdate.Proofs.Line.Transfer
import FirmwareUpdate.Proofs.Worker.Answers

/-!
# Cycles on a line

Once the peer has been accepted, what a check comes to and what a download does are computed from
the chunks on the line: the body that is collected from them, and the fragments that are streamed.
-/

namespace FirmwareUpdate

variable {σ ω : Type}

/-! ### Before the reads -/

section

variable {t : Transport σ}

/-- A connection over which a request has been sent is still there, and its session has the same
time limit. -/
theorem Client.begin_connected (session : Session) (request : Request) :
  Act.Ensures (fun _ _ => True) (Client.begin t session request)
    (fun r _ _ => (r.2 = .ok () → r.1.isConnected = true) ∧ r.1.timeout = session.timeout)
  := by
  have hcourse : t.Course (fun s _ _ => s.timeout = session.timeout)
      (fun s _ _ => s.timeout = session.timeout) := t.course_of_forall fun _ _ h => h
  apply (Client.begin_course hcourse request).imp
  · exact fun _ _ _ => rfl
  · rintro ⟨after, outcome⟩ _ _ ⟨hconnected, htimeout⟩
    refine ⟨?_, htimeout⟩
    rintro rfl
    exact hconnected

/-- A stream over a connection that has not received anything yet. -/
structure Client.Stream.Fresh (capacity : Nat) (stream : Client.Stream) : Prop where
  connected : stream.session.isConnected = true
  reception_eq : stream.reception = .start .streamed capacity
  index_eq : stream.index = 0
  undelivered : stream.isDelivered = false

theorem Client.openStream_fresh (client : Client) (request : Request) (capacity : Nat) :
  Act.Ensures (fun _ _ => True) (client.openStream t request capacity)
    (fun r _ _ => ∀ stream, r.2 = .ok stream → stream.Fresh capacity)
  := by
  unfold openStream
  apply Act.Ensures.bind_report
  apply (begin_connected client.advance.session request).bind
  rintro ⟨session, fault | ⟨⟩⟩
  · apply Act.Ensures.bind_reportAll
    exact .pure fun _ _ _ => by rintro _ ⟨⟩
  · apply Act.Ensures.pure
    rintro _ _ ⟨hconnected, -⟩ _ ⟨⟩
    exact ⟨hconnected rfl, rfl, rfl, rfl⟩

theorem Session.isConnected_iff {session : Session} :
  session.isConnected = true ↔ ∃ pin, session.stage = .connected pin
  := by
  unfold isConnected
  split
  case h_1 pin hstage => simp [hstage]
  case h_2 hstage => simpa using hstage

/-- The peer is accepted, and takes a request. -/
def Client.Accepts (t : Transport σ) (session : Session) (request : Request) : Assertion σ :=
  fun state calls => ∀ notes, (begin t session request ⟨⟨state, notes⟩, calls⟩).1.2 = .ok ()

/-- Whether the peer is accepted does not depend on the line. -/
theorem Client.begin_alike {session : Session} {request : Request}
    {s s' : Scene (σ × List Bytes)} (halike : Alike s s') :
  (begin t.onLine session request s).1 = (begin t.onLine session request s').1
  := by
  have haside : (begin t.onLine session request).Aside :=
    .of_composed (begin_composed Transport.unread_onLine session request)
  apply (haside.coincide halike).answer_eq

/-- Nor does it depend on what has been noted. -/
theorem Client.accepts_of {session : Session} {request : Request} {s : Scene (σ × List Bytes)}
    (h : (begin t.onLine session request s).1.2 = .ok ()) :
  Accepts t.onLine session request s.state s.calls
  := by
  intro notes
  rw [begin_alike ((Alike.refl s).withNotes notes), h]

theorem Client.begin_accepted {session : Session} {request : Request} :
  Act.Ensures (Accepts t session request) (begin t session request) (fun r _ _ => r.2 = .ok ())
  := ⟨fun scene h => h scene.notes⟩

/-- A file that is fetched from a peer that is accepted is collected from it. -/
theorem Client.fetch_collects (client : Client) (request : Request) (capacity : Nat)
    {P : Assertion σ} {result : Except Fault Bytes}
    (hbegin : (begin t client.session request).Keeps P)
    (hcollect : ∀ session : Session, session.isConnected = true →
      session.timeout = client.session.timeout →
      Act.Ensures P (collect t session (.start .whole capacity) 0) fun r _ _ => r.2 = result) :
  Act.Ensures (fun state calls => Accepts t client.session request state calls ∧ P state calls)
    (client.fetch t request capacity) (fun r _ _ => r.2 = result)
  := by
  have hbegun := begin_accepted.both (hbegin.both (begin_connected client.session request))
  apply fetch_ensures (Q := fun r _ _ => r.2 = result)
    (hbegun.imp_left fun _ _ ⟨haccepts, hP⟩ => ⟨haccepts, hP, trivial⟩)
  · rintro _ _ _ _ ⟨⟨⟩, -⟩
  · intro session
    apply Act.Ensures.of_forall
    rintro _ _ ⟨-, hP, hconnected, htimeout⟩
    apply (hcollect session (hconnected rfl) htimeout).imp_left
    rintro _ _ ⟨rfl, rfl⟩
    exact hP

/-- A stream is opened to a peer that is accepted. -/
theorem Client.openStream_accepted (client : Client) (request : Request) (capacity : Nat) :
  Act.Ensures (Accepts t client.session request) (client.openStream t request capacity)
    (fun r _ _ => ∃ stream, r.2 = .ok stream)
  := by
  unfold openStream
  apply Act.Ensures.bind_report
  apply begin_accepted.bind
  rintro ⟨session, outcome⟩
  apply Act.Ensures.of_forall
  rintro _ _ rfl
  exact .pure fun _ _ _ => ⟨_, rfl⟩

end

/-- An act that is aside from the line leaves it as it is. -/
theorem Act.Aside.keeps_line {α : Type} {act : Act (σ × List Bytes) α} (h : act.Aside)
    (line : List Bytes) :
  act.Keeps fun state _ => state.2 = line
  := ⟨fun scene hline => (h.line_eq scene).trans hline⟩

theorem unconcluded_nil :
  Unconcluded []
  := .inl rfl

theorem Reception.parsed_start (delivery : Delivery) (capacity : Nat) :
  (Reception.start delivery capacity).Parsed []
  := ⟨Nat.le_refl _, rfl, rfl, rfl⟩

/-- What a transfer comes to whose stream ends with an outcome. -/
def Landing.ended (landing : Landing ω) (outcome : Outcome) : Landing ω :=
  { landing with size := landing.size.bind fun size => outcome.map fun _ => size }

namespace Transfer

variable {p : Platform σ ω} {x : Transfer ω}

/-- What is landed depends on the bytes of the fragments, not on how they are cut. -/
theorem land_eq (session : Session) (x : Transfer ω) {unreeled : List Bytes × Outcome}
    (hne : [] ∉ unreeled.1) :
  x.land p session unreeled
    = landing <$> x.storeBody p unreeled.1.flatten
      >>= fun l => do return (← session.disconnect p.transport, l.ended unreeled.2)
  := by
  rw [← storeAll_eq x hne, bind_map_left, land, bind_assoc]
  congr 1
  funext r
  obtain ⟨x, fault | ⟨⟩⟩ := r
  · rfl
  · rfl

/-- There are not more fragments than bytes in them. -/
theorem length_le_flatten {fragments : List Bytes} (hne : [] ∉ fragments) :
  fragments.length ≤ fragments.flatten.length
  := by
  induction fragments with
  | nil => rfl
  | cons bytes rest ih =>
      rw [List.mem_cons, not_or] at hne
      have hbytes : 0 < bytes.length := List.length_pos_iff.mpr (Ne.symm hne.1)
      have hrest := ih hne.2
      rw [List.flatten_cons, List.length_append, List.length_cons]
      omega

/-- A response has fewer fragments than fit into 64 bits. -/
theorem length_unreel_lt {r : Reception} (hstreamed : r.delivery = .streamed)
    (hparsed : r.Parsed []) {line : List Bytes} (hlength : WithinLength line.flatten) :
  (unreel r 0 line).1.length < UInt64.size
  := by
  obtain ⟨hstarts, hne⟩ : (unreel r 0 line).1.flatten <+: bodyOf line.flatten
      ∧ [] ∉ (unreel r 0 line).1 := unreel_starts hstreamed hparsed fun _ => rfl
  have hbody : (bodyOf line.flatten).length < UInt64.size := by
    cases hresponse : response? line.flatten with
    | none =>
        rw [bodyOf_of_none hresponse]
        decide
    | some response =>
        rw [bodyOf_of_response hresponse]
        apply (hlength _ _ hresponse).trans_lt
        apply UInt64.toNat_lt
  apply (length_le_flatten hne).trans_lt
  apply hstarts.length_le.trans_lt hbody

/-- What a transfer from a fresh stream comes to is what it comes to when the fragments that are
streamed from the line are stored. -/
theorem run_onLine {stream : Client.Stream} {capacity : Nat} (hfresh : stream.Fresh capacity)
    (x : Transfer ω) {s s' : Scene (σ × List Bytes)} (halike : Alike s s')
    (hreadable : Readable s.state.2) (hlength : WithinLength s.state.2.flatten) :
  Coincide ((run p.onLine { x with stream } >>= close p.onLine) s)
    (x.land p.onLine stream.session (unreel (.start .streamed capacity) 0 s.state.2) s')
  := by
  obtain ⟨hconnected, hreception, hindex, hdelivered⟩ := hfresh
  obtain ⟨pin, hstage⟩ := Session.isConnected_iff.mp hconnected
  obtain ⟨count, hcount⟩ : ∃ count, UInt64.size = count + 1 := ⟨UInt64.size - 1, rfl⟩
  have hrun : run p.onLine { x with stream } >>= close p.onLine
      = stream.receive p.transport.onLine >>= x.finish p.onLine count := by
    rw [run, hcount, pump_succ, bind_assoc, Client.Stream.next, hdelivered]
    rfl
  have hlt := length_unreel_lt rfl (Reception.parsed_start .streamed capacity) hlength
  rw [hcount, ← hreception, ← hindex] at hlt
  rw [hrun, ← hreception, ← hindex]
  apply receive_onLine x hstage rfl hreadable halike (Nat.le_of_lt_succ hlt)

/-- What is ensured of storing the fragments that are streamed from a line, and does not speak of
reads, is ensured of a transfer from the line. -/
theorem run_lands {stream : Client.Stream} {capacity : Nat} (hfresh : stream.Fresh capacity)
    {line : List Bytes} (hreadable : Readable line) (hlength : WithinLength line.flatten)
    {P : Assertion (σ × List Bytes)} {Q : Session × Landing ω → Assertion σ}
    (hland : Act.Ensures P
      (x.land p.onLine stream.session (unreel (.start .streamed capacity) 0 line))
      (fun r state calls => Q r state.1 (unread calls))) :
  Act.Ensures (fun state calls => state.2 = line ∧ P state calls)
    (run p.onLine { x with stream } >>= close p.onLine)
    (fun r state calls => Q r state.1 (unread calls))
  := by
  constructor
  rintro s ⟨rfl, hP⟩
  obtain ⟨hanswer, hstate, hunread⟩ := run_onLine (p := p) hfresh x (.refl s) hreadable hlength
  rw [hanswer, hstate, hunread]
  apply hland.run s hP

end Transfer

namespace Worker

variable {p : Platform σ ω}

/-- What follows when a transfer from a stream has come to its end. -/
def landed (p : Platform σ ω) (worker : Worker ω) (client : Client) (stream : Client.Stream)
    (r : Session × Landing ω) : Act σ (Worker ω × Except Fault CycleResult) := do
  let (session, landing) := r
  let worker := { worker with client := { client with session }, status := landing.status }
  match landing.size with
  | .error fault => return ({ worker with programmer := landing.programmer }, .error fault)
  | .ok size =>
    let x : Transfer ω :=
      { stream, programmer := landing.programmer, status := landing.status, size }
    let (programmer, result) ← x.complete p
    return ({ worker with programmer }, result)

/-- An image is streamed by moving it to its end. -/
theorem streamImage_eq (worker : Worker ω) {request : Request}
    (hrequest : Request.get worker.config.serverHost worker.config.firmwarePath = .ok request) :
  worker.streamImage p
    = worker.client.openStream p.transport request worker.options.firmwareBuffer >>= fun
      | (client, .error fault) => return ({ worker with client }, .error fault)
      | (client, .ok stream) =>
        Transfer.run p { stream, programmer := worker.programmer, status := worker.status }
          >>= Transfer.close p >>= worker.landed p client stream
  := by
  rw [streamImage, hrequest]
  dsimp only
  congr 1
  funext r
  obtain ⟨client, fault | stream⟩ := r
  · rfl
  · dsimp only
    rw [bind_assoc]
    congr 1
    funext r
    obtain ⟨x, fault | ⟨⟩⟩ := r
    · rfl
    · rfl

theorem landed_aside (worker : Worker ω) (client : Client) (stream : Client.Stream)
    (r : Session × Landing ω) :
  (worker.landed p.onLine client stream r).Aside
  := by
  apply Act.Aside.of_composed
  unfold landed
  dsimp only
  split
  · apply Act.Composed.pure
  · apply (Transfer.complete_composed Platform.slots_onLine _).map

end Worker

/-! ### What is read -/

/-- What has been read and what is still on the line make up all of the bytes. -/
def Drawn (bytes : Bytes) : Assertion (σ × List Bytes) :=
  fun state calls => arrived (reads calls) ++ state.2.flatten = bytes

theorem besideLine_drawn (bytes : Bytes) :
  BesideLine ≤ Assertion.Keepers (Drawn (σ := σ) bytes)
  := by
  rintro α op entry ⟨⟨inner, rfl⟩, hentry⟩
  apply Act.Ensures.perform
  intro site calls h
  unfold Drawn reads at h ⊢
  rw [List.filterMap_cons_none (hentry _)]
  exact h

theorem readLine_drawn (bytes : Bytes) (capacity : Nat) :
  (perform (readLine (σ := σ) capacity) (.receive capacity)).Keeps (Drawn bytes)
  := by
  apply Act.Ensures.perform
  rintro ⟨⟨state, line⟩, notes⟩ calls h
  unfold Drawn at h ⊢
  cases line with
  | nil =>
      change arrived ([] :: reads calls) ++ [] = bytes
      rw [arrived_cons, List.append_nil]
      exact h
  | cons chunk line =>
      have hline : (if chunk.length ≤ capacity then line else chunk.drop capacity :: line).flatten
          = chunk.drop capacity ++ line.flatten := by
        split
        case isTrue hlength => rw [List.drop_of_length_le hlength, List.nil_append]
        case isFalse => rw [List.flatten_cons]
      change arrived (chunk.take capacity :: reads calls) ++ List.flatten (if _ then _ else _)
        = bytes
      rw [hline, arrived_cons, ← h, List.append_assoc, ← List.append_assoc (chunk.take capacity),
        List.take_append_drop]
      rfl

/-- A cycle on a line reads from the line only. -/
theorem Worker.process_drawn {p : Platform σ ω} (worker : Worker ω) (trigger : Trigger)
    (bytes : Bytes) :
  (worker.process p.onLine trigger).Keeps (Drawn bytes)
  := by
  have hbeside := besideLine_drawn (σ := σ) bytes
  have ht : p.onLine.transport.Performs ≤ Assertion.Keepers (Drawn bytes) := by
    rintro α op entry (hop | capacity)
    · apply hbeside _ _ _ (Transport.unread_onLine _ _ _ hop)
    · apply readLine_drawn
  apply (process_composed ht (Platform.slots_onLine.trans hbeside)
    (Platform.timer_onLine.trans hbeside) (Platform.restarts_onLine.trans hbeside)
    (Platform.observes_onLine.trans hbeside) worker trigger).keeps le_rfl

/-! ### Checks -/

/-- What is collected from a line. -/
theorem Client.collect_gathers {t : Transport σ} {session : Session}
    (hconnected : session.isConnected = true) (capacity : Nat) {line : List Bytes}
    (hreadable : Readable line) :
  Act.Ensures (fun state _ => state.2 = line)
    (collect t.onLine session (.start .whole capacity) 0)
    (fun r _ _ => r.2 = gather (.start .whole capacity) 0 line)
  := by
  obtain ⟨pin, hstage⟩ := Session.isConnected_iff.mp hconnected
  constructor
  intro s hline
  rw [(collect_onLine hstage (.start .whole capacity) 0 hline hreadable (.refl s)).answer_eq]
  rfl

/-- A file that is fetched from a line is collected from it. -/
theorem Client.fetch_gathers {t : Transport σ} (client : Client) (request : Request)
    (capacity : Nat) {line : List Bytes} (hreadable : Readable line) :
  Act.Ensures (fun state calls =>
      Accepts t.onLine client.session request state calls ∧ state.2 = line)
    (client.fetch t.onLine request capacity)
    (fun r _ _ => r.2 = gather (.start .whole capacity) 0 line)
  := by
  have haside : (begin t.onLine client.session request).Aside :=
    .of_composed (begin_composed Transport.unread_onLine _ request)
  apply client.fetch_collects request capacity (haside.keeps_line line)
  intro session hconnected _
  apply collect_gathers hconnected capacity hreadable

namespace Worker

variable {p : Platform σ ω}

/-- What a check comes to with the metadata that have been collected, or a failure. -/
def assessed (running : UInt32) : Except Fault Bytes → CycleResult
  | .error fault => .failed fault
  | .ok body => (Metadata.parse body).verdict running

theorem check_assessed (worker : Worker ω) {request : Request}
    (hrequest : Request.get worker.config.serverHost worker.config.metadataPath = .ok request)
    {line : List Bytes} (hreadable : Readable line) :
  Act.Ensures (fun state calls =>
      Client.Accepts p.transport.onLine worker.client.session request state calls
        ∧ state.2 = line)
    (worker.check p.onLine)
    (fun r _ _ => r.2 = assessed worker.runningVersion
      (gather (.start .whole worker.options.metadataBuffer) 0 line))
  := by
  unfold check
  rw [hrequest]
  apply (worker.client.fetch_gathers request worker.options.metadataBuffer hreadable).bind
  rintro ⟨client, fetched⟩
  apply Act.Ensures.of_forall
  intro _ _ hfetched
  rw [← hfetched]
  cases fetched with
  | error fault => exact .pure fun _ _ _ => rfl
  | ok body =>
      apply (readMetadata_assess { worker with client } body).imp_right
      rintro _ _ _ rfl
      rfl

/-- What a check on a line comes to is told by what is collected from the line. -/
theorem process_check_assessed (worker : Worker ω) {request : Request}
    (hrequest : Request.get worker.config.serverHost worker.config.metadataPath = .ok request)
    {line : List Bytes} (hreadable : Readable line) :
  Act.Ensures (fun state calls =>
      Client.Accepts p.transport.onLine worker.client.session request state calls
        ∧ state.2 = line)
    (worker.process p.onLine .check)
    (fun r _ _ => r.2 = assessed worker.runningVersion
      (gather (.start .whole worker.options.metadataBuffer) 0 line))
  := by
  unfold process act
  apply Act.Ensures.bind
  · apply Act.Ensures.bind_report
    apply check_assessed worker hrequest hreadable
  rintro ⟨after, result⟩
  apply Act.Ensures.of_forall
  intro _ _ hresult
  apply Act.Ensures.bind .any
  intro _
  apply Act.Ensures.bind_reportAll
  exact .pure fun _ _ _ => hresult

end Worker

end FirmwareUpdate
