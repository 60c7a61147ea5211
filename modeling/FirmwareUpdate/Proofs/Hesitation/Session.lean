import FirmwareUpdate.Proofs.Hesitation.Basic
import FirmwareUpdate.Proofs.Session.Course

/-!
# Sessions over transports that hesitate

A request is sent as a whole however the transport hesitates: what it takes is the request, in order
and once, and the server is left as if it had been sent at once. So a session comes to the same over
a transport that hesitates and over another one.
-/

namespace FirmwareUpdate

variable {σ τ ω α : Type} {t : Transport σ} {whims whims' : Whims σ τ}

/-! ### Delivering -/

theorem Transport.deliver_bind (first rest : Bytes) (state : σ) :
  (do t.deliver first; t.deliver rest : ExceptT String (StateM σ) Unit) state
    = match t.deliver first state with
      | (.ok (), after) => t.deliver rest after
      | (.error message, after) => (.error message, after)
  := by
  change ExceptT.bindCont (m := StateM σ) (fun _ => t.deliver rest) (t.deliver first state).1
    (t.deliver first state).2 = _
  obtain ⟨answer, after⟩ := t.deliver first state
  cases answer with
  | ok _ => rfl
  | error _ => rfl

namespace Transport.Straight

variable {bytes first rest : Bytes}

/-- Bytes that are sent are taken, or they are not. -/
theorem deliver_cases (h : t.Straight) (hne : bytes ≠ []) (state : σ) :
  (t.send bytes { state }).1 = .ready bytes.length
      ∧ t.deliver bytes state = (.ok (), (t.send bytes { state }).2.state)
    ∨ ∃ message, (t.send bytes { state }).1 = .failed message
      ∧ t.deliver bytes state = (.error message, (t.send bytes { state }).2.state)
  := by
  unfold deliver
  obtain hready | ⟨message, hfailed⟩ := h.send hne state
  · left
    cases hsend : t.send bytes { state } with
    | mk answer after =>
        rw [hsend] at hready
        obtain rfl : answer = .ready bytes.length := hready
        exact ⟨rfl, rfl⟩
  · right
    cases hsend : t.send bytes { state } with
    | mk answer after =>
        rw [hsend] at hfailed
        obtain rfl : answer = .failed message := hfailed
        exact ⟨message, rfl, rfl⟩

/-- If the first bytes are not taken, all of them are not. -/
theorem deliver_append_error (h : t.Straight) (hfirst : first ≠ []) {state after : σ}
    {message : String} (herror : t.deliver first state = (.error message, after)) :
  t.deliver (first ++ rest) state = (.error message, after)
  := by
  cases rest with
  | nil => rw [List.append_nil, herror]
  | cons b rest =>
      rw [h.deliver_append hfirst (List.cons_ne_nil b rest), deliver_bind, herror]

/-- If the first bytes are taken, it depends on the others. -/
theorem deliver_append_ok (h : t.Straight) (hfirst : first ≠ []) (hrest : rest ≠ [])
    {state after : σ} (hok : t.deliver first state = (.ok (), after)) :
  t.deliver (first ++ rest) state = t.deliver rest after
  := by
  rw [h.deliver_append hfirst hrest, deliver_bind, hok]

end Transport.Straight

/-! ### Sending -/

namespace Session

variable {session : Session}

/-- How sending ends: the session is as before, or it gives the connection up. -/
def sent (t : Transport σ) (session : Session) : Except String Unit → Act σ (Session × Outcome)
  | .ok () => return (session, .ok ())
  | .error message => do
    let fault : Fault := .transport s!"write: {message}"
    report origin .error s!"TLS write failed, disconnecting: {fault.message}"
    return (← session.disconnect t, .error fault)

/-- Nothing is handed over any more. -/
theorem sent_keeps (t : Transport σ) (session : Session) (answer : Except String Unit)
    (bytes : Bytes) :
  (session.sent t answer).Keeps fun _ calls => handed calls = bytes
  := by
  cases answer with
  | ok _ => exact Act.Ensures.pure fun _ _ h => h
  | error message =>
      have hhangUp :
          (perform t.hangUp fun _ => .hangUp).Keeps fun _ calls => handed calls = bytes :=
        Act.Ensures.perform fun _ _ h => (handed_cons _ _).trans ((List.append_nil _).trans h)
      apply Act.Ensures.bind_report
      apply Act.Ensures.bind ((disconnect_composed hhangUp session).keeps le_rfl)
      exact fun _ => .pure fun _ _ h => h

/-- What counts of the calls after bytes have been sent. -/
def settledSent (bytes : Bytes) (earlier : List Call) : Except String Unit → List Call
  | .ok () => bytes.reverse.map Call.sending ++ earlier
  | .error message => .send [] (.failed message) :: earlier.dropWhile Call.isSend

/-- What counts of bytes that are sent one part after the other. -/
theorem settledSent_append (first rest : Bytes) (earlier : List Call)
    (answer : Except String Unit) :
  settledSent (first ++ rest) earlier answer
    = settledSent rest (first.reverse.map Call.sending ++ earlier) answer
  := by
  cases answer with
  | ok _ => simp only [settledSent, List.reverse_append, List.map_append, List.append_assoc]
  | error message =>
      have hsend : ∀ call ∈ first.reverse.map Call.sending, call.isSend = true := by
        intro call hcall
        obtain ⟨b, -, rfl⟩ := List.mem_map.mp hcall
        rfl
      rw [settledSent, settledSent, List.dropWhile_append_of_pos hsend]

/-- Some bytes are taken, and the others are sent next. -/
theorem sendAll_of_ready {t : Transport σ} {bytes : Bytes} {count : Nat} {s after : Scene σ}
    (hne : bytes ≠ []) (hcount : count ≠ 0)
    (h : retry session.timeout "write" (perform (t.send bytes) (.send bytes)) s
      = (.ok count, after)) :
  ∃ notes, session.sendAll t bytes s = session.sendAll t (bytes.drop count) { after with notes }
  := by
  obtain ⟨n, rfl⟩ := Nat.exists_eq_succ_of_ne_zero hcount
  rw [sendAll, if_neg (by simpa using hne), Act.bind_eq h]
  dsimp only
  split
  · exact ⟨_, rfl⟩
  · exact ⟨after.notes, rfl⟩

theorem sendAll_of_failed {t : Transport σ} {bytes : Bytes} {message : String} {s after : Scene σ}
    (hne : bytes ≠ [])
    (h : retry session.timeout "write" (perform (t.send bytes) (.send bytes)) s
      = (.error (.transport s!"write: {message}"), after)) :
  session.sendAll t bytes s = session.sent t (.error message) after
  := by
  rw [sendAll, if_neg (by simpa using hne), Act.bind_eq h]
  rfl

theorem sendAll_nil (t : Transport σ) (session : Session) :
  session.sendAll t [] = pure (session, .ok ())
  := by
  rw [sendAll]
  rfl

/-- A round of sending, where `t` does what the transport does in the end: the first of the bytes
are taken, and the others are sent next, or the first are not taken. -/
inductive Round (t : Transport σ) (transport : Transport (σ × τ)) (session : Session)
    (s : Scene (σ × τ)) : Bytes → Prop
  | took {first rest : Bytes} (after : Scene (σ × τ)) :
    first ≠ [] →
    t.deliver first s.state.1 = (.ok (), after.state.1) →
    session.sendAll transport (first ++ rest) s = session.sendAll transport rest after →
    settled after.calls = settledSent first (settled s.calls) (.ok ()) →
    handed after.calls = handed s.calls ++ first →
    Round t transport session s (first ++ rest)
  | refused {first rest : Bytes} {message : String} (after : Scene (σ × τ)) :
    first ≠ [] →
    t.deliver first s.state.1 = (.error message, after.state.1) →
    session.sendAll transport (first ++ rest) s = session.sent transport (.error message) after →
    settled after.calls = settledSent first (settled s.calls) (.error message) →
    handed after.calls = handed s.calls →
    Round t transport session s (first ++ rest)

/-- Sending goes on in rounds on a transport that hesitates. -/
theorem sendAll_round (ht : t.Straight) (hwhims : whims.Bearable session.timeout) {bytes : Bytes}
    (hne : bytes ≠ []) (s : Scene (σ × τ)) :
  Round t (t.hesitating whims) session s bytes
  := by
  have hfirst : ∀ more, bytes.take (more + 1) ≠ [] := by simpa using hne
  have hop : ∀ more spent,
      (t.send (bytes.take (more + 1)) { state := s.state.1 }).1 ≠ .retry spent := by
    intro more spent hretry
    obtain hready | ⟨message, hfailed⟩ := ht.send (hfirst more) s.state.1
    · cases hready.symm.trans hretry
    · cases hfailed.symm.trans hretry
  have hentry : ∀ spent, (Call.send bytes (.retry spent)).isRetry = true := fun _ => rfl
  obtain ⟨more, after, earlier, hretry, hstate, hcalls, hsettled, hhanded⟩ :=
    retryFrom_hesitating "write" hentry hop (hwhims (.send bytes) s.state.1 s.state.2)
  change retry session.timeout "write"
    (perform ((t.hesitating whims).send bytes) (.send bytes)) s = _ at hretry
  have hlength : bytes.take (bytes.take (more + 1)).length = bytes.take (more + 1) := by simp
  have hparts : bytes.take (more + 1) ++ bytes.drop (more + 1) = bytes :=
    List.take_append_drop _ _
  suffices h : Round t (t.hesitating whims) session s
      (bytes.take (more + 1) ++ bytes.drop (more + 1)) by rwa [hparts] at h
  obtain ⟨hready, hdeliver⟩ | ⟨message, hfailed, hdeliver⟩ :=
    ht.deliver_cases (hfirst more) s.state.1
  · rw [hready] at hretry hcalls
    have hcount : (bytes.take (more + 1)).length ≠ 0 := by simpa using hne
    obtain ⟨notes, hsend⟩ := sendAll_of_ready hne hcount hretry
    apply Round.took { after with notes } (hfirst more)
    · rw [hdeliver, ← hstate]
    · rw [hparts, hsend]
      congr 1
      simp
    · rw [hcalls, settled_cons_ready, hlength, hsettled]
      rfl
    · rw [hcalls, handed_cons, hhanded, Call.taken, hlength]
  · rw [hfailed] at hretry hcalls
    apply Round.refused after (hfirst more)
    · rw [hdeliver, ← hstate]
    · rw [hparts]
      exact sendAll_of_failed hne hretry
    · rw [hcalls, settled_cons_failed, hsettled]
      rfl
    · rw [hcalls, handed_cons, hhanded]
      exact List.append_nil _

/-- Sending ends as the server has it. What is handed over is the request, in order and once, or a
part of it if the rest is not taken. -/
structure Sends (t : Transport (σ × τ)) (session : Session) (bytes : Bytes) (s : Scene (σ × τ))
    (delivered : Except String Unit × σ) (before : Scene (σ × τ)) : Prop where
  run_eq : session.sendAll t bytes s = session.sent t delivered.1 before
  state_eq : before.state.1 = delivered.2
  settled_eq : settled before.calls = settledSent bytes (settled s.calls) delivered.1
  handed : ∃ part rest, bytes = part ++ rest ∧ handed before.calls = handed s.calls ++ part
    ∧ (rest = [] ↔ delivered.1 = .ok ())

/-- What the server makes of the bytes does not hang on the whims of the transport. -/
theorem sendAll_hesitating (ht : t.Straight) (hwhims : whims.Bearable session.timeout)
    {bytes : Bytes} (hne : bytes ≠ []) (s : Scene (σ × τ)) :
  ∃ before, Sends (t.hesitating whims) session bytes s (t.deliver bytes s.state.1) before
  := by
  induction hlength : bytes.length using Nat.strongRecOn generalizing bytes s with
  | ind length ih =>
  cases sendAll_round ht hwhims hne s with
  | @took first rest after hfirst hdeliver hrun hsettled hhanded =>
      by_cases hrest : rest = []
      · -- All bytes have been taken.
        subst hrest
        rw [List.append_nil] at *
        rw [hdeliver]
        refine ⟨after, ?_, rfl, hsettled, first, [], (List.append_nil first).symm, hhanded, by simp⟩
        rw [hrun, sendAll_nil]
        rfl
      · have hlt : rest.length < length := by
          have hpos := List.length_pos_iff.mpr hfirst
          rw [← hlength, List.length_append]
          omega
        rw [ht.deliver_append_ok hfirst hrest hdeliver]
        obtain ⟨before, hsends, hstate, hcounts, part, left, hparts, hover, hleft⟩ :=
          ih rest.length hlt hrest after rfl
        refine ⟨before, hrun.trans hsends, hstate, ?_, first ++ part, left, ?_, ?_, hleft⟩
        · rw [hcounts, settledSent_append, hsettled]
          rfl
        · rw [hparts, List.append_assoc]
        · rw [hover, hhanded, List.append_assoc]
  | @refused first rest message after hfirst hdeliver hrun hsettled hhanded =>
      rw [ht.deliver_append_error hfirst hdeliver]
      refine ⟨after, hrun, rfl, hsettled, [], _, rfl, ?_, by simp [hne]⟩
      rw [hhanded, List.append_nil]

/-! ### Two transports side by side -/

section

variable {timeout : Duration}

/-- What is done with a session does not change its time limit. -/
theorem course_timeout (t : Transport σ) (timeout : Duration) :
  t.Course (fun session _ _ => session.timeout = timeout)
    fun session _ _ => session.timeout = timeout
  := t.course_of_forall fun _ _ h => h

theorem disconnect_hesitating :
  (session.disconnect (t.hesitating whims)).Parallel (session.disconnect (t.hesitating whims'))
  := .of_composed (disconnect_composed ⟨_, rfl⟩ session)

theorem finish_hesitating :
  (session.finish (t.hesitating whims)).Parallel (session.finish (t.hesitating whims'))
  := .of_composed (finish_composed ⟨_, rfl⟩ session)

theorem configure_hesitating :
  (session.configure (t.hesitating whims)).Parallel (session.configure (t.hesitating whims'))
  := .of_composed (configure_composed (fun _ => ⟨_, rfl⟩) ⟨_, rfl⟩ session)

theorem sent_hesitating (answer : Except String Unit) :
  (session.sent (t.hesitating whims) answer).Parallel (session.sent (t.hesitating whims') answer)
  := by
  cases answer with
  | ok _ => exact .pure _
  | error message => exact .bind_report (disconnect_hesitating.bind fun _ => .pure _)

variable (ht : t.Straight) (hwhims : whims.Bearable timeout) (hwhims' : whims'.Bearable timeout)
  (hsession : session.timeout = timeout)

include ht hwhims hwhims' hsession

theorem establish_hesitating (pin : Pin) :
  (session.establish (t.hesitating whims) pin).Parallel
    (session.establish (t.hesitating whims') pin)
  := by
  subst hsession
  unfold establish
  apply Act.Parallel.bind
  · exact .retry (fun _ => rfl) ht.handshake (hwhims .handshake) (hwhims' .handshake)
  rintro (fault | ⟨⟩)
  · exact .pure _
  apply Act.Parallel.bind (.perform ⟨_, rfl⟩)
  rintro (fault | ⟨⟩)
  · exact .pure _
  apply Act.Parallel.bind (.perform ⟨_, rfl⟩)
  rintro (_ | certificate)
  · exact .pure _
  · exact .bind_reportAll (.pure _)

/-- Connecting comes to the same however the transport hesitates. -/
theorem connect_hesitating :
  (session.connect (t.hesitating whims)).Parallel (session.connect (t.hesitating whims'))
  := by
  have hcourse := course_timeout (t.hesitating whims) timeout
  unfold Session.connect
  extract_lets jp jp'
  have hjp : ∀ session : Session, session.isConnected = false ∧ session.timeout = timeout →
      (jp session).Parallel (jp' session) := by
    rintro session ⟨hclosed, htimeout⟩
    apply configure_hesitating.bind_of htimeout (configure_course hcourse hclosed)
    rintro ⟨session, fault | pin⟩ ⟨_, _, -, -, htimeout⟩
    · exact .pure _
    apply Act.Parallel.bind (.perform ⟨_, rfl⟩)
    rintro (fault | ⟨⟩)
    · exact .bind_report (.bind (.perform ⟨_, rfl⟩) fun _ => .pure _)
    apply Act.Parallel.bind_report
    apply (establish_hesitating ht hwhims hwhims' htimeout pin).bind
    rintro (fault | ⟨⟩)
    · exact .bind_report (.bind (.perform ⟨_, rfl⟩) fun _ => .pure _)
    · exact .bind_report (.pure _)
  split
  case isTrue =>
    apply Act.Parallel.bind_report
    apply disconnect_hesitating.bind_of hsession (disconnect_course hcourse)
    rintro session ⟨_, _, hstands⟩
    exact hjp session hstands
  case isFalse hclosed =>
    simp only [pure_bind]
    exact hjp session ⟨eq_false_of_ne_true hclosed, hsession⟩

theorem sendAll_parallel (bytes : Bytes) :
  (session.sendAll (t.hesitating whims) bytes).Parallel
    (session.sendAll (t.hesitating whims') bytes)
  := by
  subst hsession
  by_cases hne : bytes = []
  · rw [hne, sendAll_nil, sendAll_nil]
    exact .pure _
  constructor
  intro s s' hs
  obtain ⟨before, hrun, hstate, hsettled, -⟩ := sendAll_hesitating ht hwhims hne s
  obtain ⟨before', hrun', hstate', hsettled', -⟩ := sendAll_hesitating ht hwhims' hne s'
  rw [← hs.state_eq] at hrun' hstate' hsettled'
  rw [← hs.settled_eq] at hsettled'
  rw [hrun, hrun']
  exact (sent_hesitating _).concur ⟨hstate.trans hstate'.symm, hsettled.trans hsettled'.symm⟩

/-- Asking comes to the same however the transport hesitates. -/
theorem ask_hesitating (request : Bytes) :
  (session.ask (t.hesitating whims) request).Parallel (session.ask (t.hesitating whims') request)
  := by
  unfold ask
  split
  · exact sendAll_parallel ht hwhims hwhims' hsession request
  · exact .pure _

omit hwhims' in
/-- What is handed over is the request, in order and once, or a part of it if the outcome is not
good. It is good if a connection is established and the server takes the request. -/
theorem ask_hands (request : Bytes) (s : Scene (σ × τ)) :
  ∃ part rest, request = part ++ rest
    ∧ handed (session.ask (t.hesitating whims) request s).2.calls = handed s.calls ++ part
    ∧ ((session.ask (t.hesitating whims) request s).1.2 = .ok () → rest = [])
    ∧ (session.isConnected = true → (t.deliver request s.state.1).1 = .ok () →
      (session.ask (t.hesitating whims) request s).1.2 = .ok ())
  := by
  subst hsession
  unfold ask
  split
  case isFalse hclosed =>
    refine ⟨[], request, rfl, (List.append_nil _).symm, ?_, fun h => absurd h hclosed⟩
    rintro ⟨⟩
  by_cases hne : request = []
  · rw [hne, sendAll_nil]
    exact ⟨[], [], rfl, (List.append_nil _).symm, fun _ => rfl, fun _ _ => rfl⟩
  obtain ⟨before, hrun, -, -, part, rest, hparts, hhanded, hrest⟩ :=
    sendAll_hesitating ht hwhims hne s
  rw [hrun]
  refine ⟨part, rest, hparts, (sent_keeps _ session _ _).run before hhanded, ?_⟩
  cases hanswer : (t.deliver request s.state.1).1 with
  | ok _ => exact ⟨fun _ => hrest.mpr hanswer, fun _ _ => rfl⟩
  | error message =>
      constructor
      · rintro ⟨⟩
      · rintro _ ⟨⟩

/-- Reading comes to the same however the transport hesitates. -/
theorem readChunk_hesitating (capacity index : Nat) :
  (session.readChunk (t.hesitating whims) capacity index).Parallel
    (session.readChunk (t.hesitating whims') capacity index)
  := by
  subst hsession
  unfold readChunk
  split
  case isFalse => exact .pure _
  apply Act.Parallel.bind
  · exact .retry (fun _ => rfl) (ht.receive capacity) (hwhims (.receive capacity))
      (hwhims' (.receive capacity))
  rintro (fault | _ | ⟨b, rest⟩)
  · exact .bind_report (disconnect_hesitating.bind fun _ => .pure _)
  · exact .bind_report (disconnect_hesitating.bind fun _ => .pure _)
  · exact .bind_report (.pure _)

end

end Session

end FirmwareUpdate
