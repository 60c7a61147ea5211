import FirmwareUpdate.Proofs.Ensures
import FirmwareUpdate.Session.Basic

/-!
# The course of a session

The operations of a transport are made in a fixed order: the transport is configured once, a
connection is opened, made sure of, used and closed. What is known of a session at every point of
this order is an assertion that the single operations lead on; it then holds after everything that
is done with the session, and the answers tell whether the session is connected.
-/

namespace FirmwareUpdate

variable {σ : Type}

/-- What is known of a session, `I`, and what is known of it while a connection is open that is
not established, `J`, goes on from one operation of a transport to the next. -/
structure Transport.Course (t : Transport σ) (I J : Session → Assertion σ) : Prop where
  configure : ∀ {session : Session} {pin : Pin}, session.stage = .unconfigured →
    Pin.ofPem session.identity.peerCertificate = .ok pin →
    Act.Ensures (I session) (perform (t.configure session.identity) .configure)
      fun outcome => match outcome with
        | .ok () => I { session with stage := .idle pin }
        | .error _ => I session
  reset : ∀ {session : Session}, session.stage = .unconfigured →
    (perform t.reset fun _ => .reset).Keeps (I session)
  dial : ∀ {session : Session} {pin : Pin} (host : String) (port : UInt16),
    session.stage = .idle pin →
    Act.Ensures (I session) (perform (t.dial host port) (.dial host port))
      fun outcome => match outcome with
        | .ok () => J session
        | .error _ => I session
  handshake : ∀ session, (perform t.handshake .handshake).Keeps (J session)
  verifyChain : ∀ session, (perform t.verifyChain .verifyChain).Keeps (J session)
  peerCertificate : ∀ session, (perform t.peerCertificate .peerCertificate).Keeps (J session)
  establish : ∀ {session : Session} {pin : Pin} {state : σ} {calls : List Call},
    session.stage = .idle pin → J session state calls →
      I { session with stage := .connected pin } state calls
  giveUp : ∀ {session : Session} {pin : Pin}, session.stage = .idle pin →
    Act.Ensures (J session) (perform t.hangUp fun _ => .hangUp) fun _ => I session
  hangUpIdle : ∀ {session : Session} {pin : Pin}, session.stage = .idle pin →
    (perform t.hangUp fun _ => .hangUp).Keeps (I session)
  send : ∀ {session : Session} (bytes : Bytes), session.isConnected = true →
    (perform (t.send bytes) (.send bytes)).Keeps (I session)
  receive : ∀ {session : Session} (capacity : Nat), session.isConnected = true →
    (perform (t.receive capacity) (.receive capacity)).Keeps (I session)
  hangUp : ∀ {session : Session} {pin : Pin}, session.stage = .connected pin →
    Act.Ensures (I session) (perform t.hangUp fun _ => .hangUp)
      fun _ => I { session with stage := .idle pin }

/-- What is known of a session whatever its stage goes on in every course. -/
theorem Transport.course_of_forall (t : Transport σ) {F : Session → Prop}
    (h : ∀ session stage, F session → F { session with stage }) :
  t.Course (fun session _ _ => F session) (fun session _ _ => F session)
  where
  configure _ _ := .perform fun site _ hF => by
    cases (t.configure _ site).1 with
    | error _ => exact hF
    | ok _ => exact h _ _ hF
  reset _ := .perform fun _ _ hF => hF
  dial host port _ := .perform fun site _ hF => by cases (t.dial host port site).1 <;> exact hF
  handshake _ := .perform fun _ _ hF => hF
  verifyChain _ := .perform fun _ _ hF => hF
  peerCertificate _ := .perform fun _ _ hF => hF
  establish _ hF := h _ _ hF
  giveUp _ := .perform fun _ _ hF => hF
  hangUpIdle _ := .perform fun _ _ hF => hF
  send _ _ := .perform fun _ _ hF => hF
  receive _ _ := .perform fun _ _ hF => hF
  hangUp _ := .perform fun _ _ hF => h _ _ hF

/-- What is known of a session, together with whether it is connected. -/
def Session.Stands (I : Session → Assertion σ) (isConnected : Bool) (session : Session) :
    Assertion σ :=
  fun state calls => session.isConnected = isConnected ∧ I session state calls

/-- An operation that is tried again keeps what each round keeps. -/
theorem Act.Ensures.retry_keeps {α : Type} {timeout : Duration} {what : String}
    {act : Act σ (Progress α)} {K : Assertion σ} (h : act.Keeps K) :
  (FirmwareUpdate.retry timeout what act).Keeps K
  := by
  apply retry
  · apply h.imp_right
    intro progress _ _ h
    cases progress with
    | ready _ => apply h
    | retry _ => apply h
    | failed _ =>
        intro _
        apply h
  · intro _ _ _ h
    apply h

namespace Session

variable {t : Transport σ} {I J : Session → Assertion σ} {session : Session} {pin : Pin}

/-! ### Connecting -/

theorem configure_course (h : t.Course I J) (hclosed : session.isConnected = false) :
  Act.Ensures (I session) (session.configure t) fun r state calls =>
    (∀ pin, r.2 = .ok pin → r.1.stage = .idle pin) ∧ Stands I false r.1 state calls
  := by
  unfold configure
  split
  case h_1 pin hidle =>
    apply Act.Ensures.pure
    intro _ _ hI
    refine ⟨?_, hclosed, hI⟩
    rintro _ ⟨rfl⟩
    apply hidle
  case h_2 pin hconnected =>
    simp [isConnected, hconnected] at hclosed
  case h_3 hunconfigured =>
    split
    case h_1 fault _ =>
      apply Act.Ensures.pure
      intro _ _ hI
      refine ⟨?_, hclosed, hI⟩
      rintro _ ⟨⟩
    case h_2 pin hpin =>
      apply (h.configure hunconfigured hpin).bind
      rintro (fault | ⟨⟩)
      · apply Act.Ensures.bind_report
        apply Act.Ensures.bind (h.reset hunconfigured)
        intro _
        apply Act.Ensures.pure
        intro _ _ hI
        refine ⟨?_, hclosed, hI⟩
        rintro _ ⟨⟩
      · apply Act.Ensures.bind_report
        apply Act.Ensures.pure
        intro _ _ hI
        refine ⟨?_, rfl, hI⟩
        rintro _ ⟨rfl⟩
        rfl

/-- Making sure of the peer keeps what is known while the connection is not established. -/
theorem establish_course (h : t.Course I J) :
  (session.establish t pin).Keeps (J session)
  := by
  unfold establish
  apply Act.Ensures.bind (Act.Ensures.retry_keeps (h.handshake session))
  intro outcome
  split
  · exact .pure fun _ _ hJ => hJ
  apply Act.Ensures.bind (h.verifyChain session)
  intro outcome
  split
  · exact .pure fun _ _ hJ => hJ
  apply Act.Ensures.bind (h.peerCertificate session)
  intro presented
  split
  · exact .pure fun _ _ hJ => hJ
  apply Act.Ensures.bind_reportAll
  exact .pure fun _ _ hJ => hJ

theorem disconnect_course (h : t.Course I J) :
  Act.Ensures (I session) (session.disconnect t) (Stands I false)
  := by
  unfold disconnect
  split
  case h_1 hstage =>
    exact .pure fun _ _ hI => ⟨by rw [isConnected, hstage], hI⟩
  case h_2 pin hstage =>
    apply Act.Ensures.bind (h.hangUpIdle hstage)
    intro _
    exact .pure fun _ _ hI => ⟨by rw [isConnected, hstage], hI⟩
  case h_3 pin hstage =>
    apply Act.Ensures.bind (h.hangUp hstage)
    intro _
    apply Act.Ensures.bind_report
    exact .pure fun _ _ hI => ⟨rfl, hI⟩

/-- A session is connected exactly if connecting goes well. -/
theorem connect_course (h : t.Course I J) :
  Act.Ensures (I session) (session.connect t) fun r => Stands I r.2.isOk r.1
  := by
  unfold Session.connect
  extract_lets jp
  have hjp : ∀ session : Session,
      Act.Ensures (Stands I false session) (jp session) fun r => Stands I r.2.isOk r.1 := by
    intro session
    apply Act.Ensures.of_fact
    intro hclosed
    apply Act.Ensures.bind (configure_course h hclosed)
    rintro ⟨session, fault | pin⟩
    · exact .pure fun _ _ hI => hI.2
    apply Act.Ensures.of_fact
    intro hpin
    have hstage : session.stage = .idle pin := hpin pin rfl
    apply Act.Ensures.of_fact
    intro hclosed
    apply (h.dial _ _ hstage).bind
    rintro (fault | ⟨⟩)
    · apply Act.Ensures.bind_report
      apply Act.Ensures.bind (h.hangUpIdle hstage)
      intro _
      exact .pure fun _ _ hI => ⟨hclosed, hI⟩
    apply Act.Ensures.bind_report
    apply Act.Ensures.bind (establish_course h)
    rintro (fault | ⟨⟩)
    · apply Act.Ensures.bind_report
      apply Act.Ensures.bind (h.giveUp hstage)
      intro _
      exact .pure fun _ _ hI => ⟨hclosed, hI⟩
    · apply Act.Ensures.bind_report
      exact .pure fun _ _ hJ => ⟨rfl, h.establish hstage hJ⟩
  split
  case isTrue =>
    apply Act.Ensures.bind_report
    apply Act.Ensures.bind (disconnect_course h) hjp
  case isFalse hclosed =>
    simp only [pure_bind]
    apply (hjp session).imp_left
    intro _ _ hI
    use eq_false_of_ne_true hclosed

/-! ### Sending and receiving -/

/-- A session stays connected exactly if everything is sent. -/
theorem sendAll_course (h : t.Course I J) (hconnected : session.isConnected = true)
    (bytes : Bytes) :
  Act.Ensures (I session) (session.sendAll t bytes) fun r => Stands I r.2.isOk r.1
  := by
  induction bytes using sendAll.induct with
  | case1 bytes hempty =>
      rw [sendAll, if_pos hempty]
      exact .pure fun _ _ hI => ⟨hconnected, hI⟩
  | case2 bytes hne ih =>
      rw [sendAll, if_neg hne]
      apply Act.Ensures.bind (Act.Ensures.retry_keeps (h.send bytes hconnected))
      intro sent
      split
      · apply Act.Ensures.bind_report
        apply Act.Ensures.map
        exact disconnect_course h
      · apply Act.Ensures.map
        exact disconnect_course h
      case h_3 n =>
        dsimp only
        split
        · apply Act.Ensures.bind_report
          apply ih
        · apply ih

theorem ask_course (h : t.Course I J) (request : Bytes) :
  Act.Ensures (I session) (session.ask t request) fun r => Stands I r.2.isOk r.1
  := by
  unfold ask
  split
  case isTrue hconnected => apply sendAll_course h hconnected
  case isFalse hclosed =>
    exact .pure fun _ _ hI => ⟨eq_false_of_ne_true hclosed, hI⟩

/-- A session is still connected exactly if a chunk has been read. -/
theorem readChunk_course (h : t.Course I J) (capacity index : Nat) :
  Act.Ensures (I session) (session.readChunk t capacity index) fun r =>
    Stands I (r.2.toOption.join.isSome) r.1
  := by
  unfold readChunk
  split
  case isTrue hconnected =>
    apply Act.Ensures.bind (Act.Ensures.retry_keeps (h.receive capacity hconnected))
    intro received
    split
    · apply Act.Ensures.bind_report
      apply Act.Ensures.map
      exact disconnect_course h
    · apply Act.Ensures.bind_report
      apply Act.Ensures.map
      exact disconnect_course h
    · apply Act.Ensures.bind_report
      exact .pure fun _ _ hI => ⟨hconnected, hI⟩
  case isFalse hclosed =>
    exact .pure fun _ _ hI => ⟨eq_false_of_ne_true hclosed, hI⟩

theorem finish_course (h : t.Course I J) :
  Act.Ensures (I session) (session.finish t) (Stands I false)
  := by
  unfold finish
  split
  case isTrue => apply disconnect_course h
  case isFalse hclosed =>
    exact .pure fun _ _ hI => ⟨eq_false_of_ne_true hclosed, hI⟩

/-- Reading chunks to the end leads a session on. Whether it is connected then hangs on who has
ended the reading. -/
theorem readAll_course (h : t.Course I J) {capacity : Nat} {accept : Nat → Bytes → Bool}
    (count index : Nat) :
  Act.Ensures (I session) (session.readAll t capacity accept count index) fun r => I r.1
  := by
  induction count generalizing session index with
  | zero =>
      rw [readAll]
      exact .pure fun _ _ hI => hI
  | succ count ih =>
      rw [readAll]
      apply Act.Ensures.bind
      · apply (readChunk_course h capacity index).imp_right
        intro _ _ _ hr
        exact hr.2
      rintro ⟨session, fault | (_ | chunk)⟩
      · exact .pure fun _ _ hI => hI
      · exact .pure fun _ _ hI => hI
      · dsimp only
        split
        · apply Act.Ensures.bind (ih (index + 1))
          intro _
          exact .pure fun _ _ hI => hI
        · exact .pure fun _ _ hI => hI

/-- A request leaves no connection, however it comes to its end. -/
theorem request_course (h : t.Course I J) {bytes : Bytes} {capacity : Nat}
    {accept : Nat → Bytes → Bool} {count : Nat} :
  Act.Ensures (I session) (session.request t bytes capacity accept count) fun r =>
    Stands I false r.1
  := by
  unfold request
  apply Act.Ensures.bind (ask_course h bytes)
  rintro ⟨session, fault | ⟨⟩⟩
  · exact .pure fun _ _ hI => hI
  apply Act.Ensures.bind
  · apply (readAll_course h count 0).imp_left
    intro _ _ hI
    exact hI.2
  intro r
  apply Act.Ensures.map (f := fun session => (session, r.2.1, r.2.2))
  apply finish_course h

end Session

/-- A session for a server, with the pin that the server's certificate carries. -/
structure Session.Serves (identity : Identity) (timeout : Duration) (session : Session) : Prop where
  identity_eq : session.identity = identity
  timeout_eq : session.timeout = timeout
  idle : ∀ pin, session.stage = .idle pin → Pin.ofPem identity.peerCertificate = .ok pin
  connected : ∀ pin, session.stage = .connected pin → Pin.ofPem identity.peerCertificate = .ok pin

/-- Whatever is done with a session, it serves the same server. -/
theorem Transport.course_serves (t : Transport σ) (identity : Identity) (timeout : Duration) :
  t.Course (fun session _ _ => session.Serves identity timeout)
    (fun session _ _ => session.Serves identity timeout)
  where
  configure {session pin} _ hpin := by
    apply Act.Ensures.perform
    intro site _ h
    cases (t.configure session.identity site).1 with
    | error _ => exact h
    | ok _ =>
        refine ⟨h.identity_eq, h.timeout_eq, ?_, by rintro _ ⟨⟩⟩
        rintro _ ⟨rfl⟩
        rwa [← h.identity_eq]
  reset _ := .perform fun _ _ h => h
  dial {session _} host port _ := by
    apply Act.Ensures.perform
    intro site _ h
    cases (t.dial host port site).1 <;> exact h
  handshake _ := .perform fun _ _ h => h
  verifyChain _ := .perform fun _ _ h => h
  peerCertificate _ := .perform fun _ _ h => h
  establish {session pin} _ _ hstage h := by
    refine ⟨h.identity_eq, h.timeout_eq, by rintro _ ⟨⟩, ?_⟩
    rintro _ ⟨rfl⟩
    apply h.idle pin hstage
  giveUp _ := .perform fun _ _ h => h
  hangUpIdle _ := .perform fun _ _ h => h
  send _ _ := .perform fun _ _ h => h
  receive _ _ := .perform fun _ _ h => h
  hangUp {session pin} hstage := by
    apply Act.Ensures.perform
    intro _ _ h
    refine ⟨h.identity_eq, h.timeout_eq, ?_, by rintro _ ⟨⟩⟩
    rintro _ ⟨rfl⟩
    apply h.connected pin hstage

end FirmwareUpdate
