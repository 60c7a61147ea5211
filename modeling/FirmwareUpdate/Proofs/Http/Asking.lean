import FirmwareUpdate.Proofs.Http.Course
import FirmwareUpdate.Proofs.Http.Frame

/-!
# What is asked for

Nothing is sent before the peer has been made sure of. Then the request is sent, beginning with all
of it and going on with what is left, and nothing else is sent any more. So it can be read off the
calls of a request which request it was.
-/

namespace FirmwareUpdate

variable {σ α : Type}

/-- What is left to send of bytes, all of which have been offered. -/
def Progress.left (progress : Progress Nat) (bytes : Bytes) : Bytes :=
  match progress with
  | .ready count => bytes.drop count
  | _ => bytes

/-- A call that sends nothing, and by which the peer of a server is not made sure of. -/
def Call.IsTacit (identity : Identity) : Call → Prop
  | .send _ _ => False
  | .peerCertificate (some certificate) =>
    ∀ pin, Pin.ofPem identity.peerCertificate = .ok pin → pin.verify certificate ≠ .ok ()
  | _ => True

/-- How far the calls for a request have come: the peer has not been made sure of, it has been but
nothing has been sent, or there is a rest of the request left. -/
inductive Asking
  | unvetted
  | vetted
  | asked (rest : Bytes)

/-- The peer has just been made sure of, or has not been. -/
def Asking.begun (isVetted : Bool) : Asking :=
  if isVetted then .vetted else .unvetted

/-- What can be sent next. -/
def Asking.next? (request : Bytes) : Asking → Option Bytes
  | .unvetted => none
  | .vetted => some request
  | .asked rest => some rest

/-- How far calls have come, the latest first, that are made for one request to a server. -/
inductive Asks (identity : Identity) (request : Bytes) : Asking → List Call → Prop
  | nil : Asks identity request .unvetted []
  | tacit {asking : Asking} {call : Call} {calls : List Call} :
      call.IsTacit identity → Asks identity request asking calls →
      Asks identity request asking (call :: calls)
  | vet {pin : Pin} {certificate : Bytes} {calls : List Call} :
      Pin.ofPem identity.peerCertificate = .ok pin → pin.verify certificate = .ok () →
      Asks identity request .unvetted calls →
      Asks identity request .vetted (.peerCertificate (some certificate) :: calls)
  | send {asking : Asking} {rest : Bytes} {calls : List Call} (progress : Progress Nat) :
      asking.next? request = some rest → Asks identity request asking calls →
      Asks identity request (.asked (progress.left rest)) (.send rest progress :: calls)

/-- Calls, the latest first, that are made for one request to a server. The request is sent once the
peer has been made sure of. -/
def AsksFor (identity : Identity) (request : Bytes) (calls : List Call) : Prop :=
  ∃ asking, asking ≠ .vetted ∧ Asks identity request asking calls

/-- What has been called since a record of calls is as `F` says. -/
def Since (before : List Call) (F : List Call → Prop) : Assertion σ :=
  fun _ calls => ∃ made, calls = made ++ before ∧ F made

/-- The operations whose entries are tacit. -/
def Tacits (identity : Identity) : Basis σ :=
  fun _ _ entry => ∀ a, (entry a).IsTacit identity

variable {identity : Identity} {request : Bytes} {asking : Asking}
  {base : List Call} {t : Transport σ}

theorem tacits_le {F : List Call → Prop}
    (hF : ∀ call calls, call.IsTacit identity → F calls → F (call :: calls)) :
  Tacits identity ≤ (Since base F : Assertion σ).Keepers
  := by
  intro α op entry hentry
  apply Act.Ensures.perform
  rintro site _ ⟨made, rfl, hmade⟩
  exact ⟨entry (op site).1 :: made, rfl, hF _ _ (hentry _) hmade⟩

theorem asks_tacits :
  Tacits identity ≤ (Since base (Asks identity request asking) : Assertion σ).Keepers
  := tacits_le fun _ _ hcall hcalls => .tacit hcall hcalls

theorem asksFor_tacits :
  Tacits identity ≤ (Since base (AsksFor identity request) : Assertion σ).Keepers
  := by
  apply tacits_le
  rintro call calls hcall ⟨asking, hne, hcalls⟩
  exact ⟨asking, hne, .tacit hcall hcalls⟩

theorem Transport.hears_tacits :
  t.Hears ≤ Tacits identity
  := by
  intro α op entry hop
  cases hop with
  | receive capacity => exact fun _ => trivial
  | hangUp => exact fun _ => trivial

/-- A request has bytes. -/
theorem Request.bytes_ne (request : Request) :
  request.bytes ≠ []
  := by
  obtain ⟨rest, hrest⟩ : ∃ rest, request.text.toList = 'G' :: rest := by
    simp only [text, method, String.toList_append, toString]
    exact ⟨_, rfl⟩
  have hfirst : String.utf8EncodeChar 'G' = [71] := by decide
  simp [bytes, utf8, Utf8.encode, hrest, hfirst]

namespace Session

variable {timeout : Duration} {session : Session} {pin : Pin}

theorem establish_asks (hpin : Pin.ofPem identity.peerCertificate = .ok pin) :
  Act.Ensures (Since base (Asks identity request .unvetted)) (session.establish t pin)
    fun outcome => Since base (Asks identity request (.begun outcome.isOk))
  := by
  unfold establish
  apply Act.Ensures.bind
    (Act.Ensures.retry_keeps (asks_tacits _ t.handshake .handshake fun _ => trivial))
  intro outcome
  split
  · exact .pure fun _ _ h => h
  apply Act.Ensures.bind (asks_tacits _ t.verifyChain .verifyChain fun _ => trivial)
  intro outcome
  split
  · exact .pure fun _ _ h => h
  -- the answer to the last question decides
  apply Act.Ensures.bind (R := fun presented => Since base (Asks identity request
    (.begun (presented.elim false fun certificate => (pin.verify certificate).isOk))))
  · apply Act.Ensures.perform
    rintro site _ ⟨made, rfl, hmade⟩
    refine ⟨.peerCertificate (t.peerCertificate site).1 :: made, rfl, ?_⟩
    cases (t.peerCertificate site).1 with
    | none => exact .tacit trivial hmade
    | some certificate =>
        cases hverify : pin.verify certificate with
        | ok _ =>
            rw [Option.elim_some, hverify]
            exact .vet hpin hverify hmade
        | error fault =>
            rw [Option.elim_some, hverify]
            refine .tacit ?_ hmade
            intro other hother
            obtain rfl := Except.ok.inj (hpin.symm.trans hother)
            rw [hverify]
            rintro ⟨⟩
  rintro (_ | certificate)
  · exact .pure fun _ _ h => h
  · apply Act.Ensures.bind_reportAll
    exact .pure fun _ _ h => h

theorem configure_asks (hclosed : session.isConnected = false)
    (hserves : session.Serves identity timeout) :
  Act.Ensures (Since base (Asks identity request asking)) (session.configure t)
    fun r state calls => (∀ pin, r.2 = .ok pin → Pin.ofPem identity.peerCertificate = .ok pin)
      ∧ Since base (Asks identity request asking) state calls
  := by
  have hcourse := configure_course (t.course_serves identity timeout) hclosed
  have hcomposed := configure_composed (B := Tacits identity) (t := t)
    (fun _ _ => trivial) (fun _ => trivial) session
  apply (hcourse.both (hcomposed.keeps asks_tacits)).imp
  · exact fun _ _ h => ⟨hserves, h⟩
  · rintro r _ _ ⟨⟨hstage, -, hserves⟩, h⟩
    exact ⟨fun pin hpin => hserves.idle pin (hstage pin hpin), h⟩

theorem disconnect_asks (hserves : session.Serves identity timeout) :
  Act.Ensures (Since base (Asks identity request asking)) (session.disconnect t)
    fun after state calls => (after.isConnected = false ∧ after.Serves identity timeout)
      ∧ Since base (Asks identity request asking) state calls
  := by
  have hcourse : Act.Ensures _ (session.disconnect t) _ :=
    disconnect_course (t.course_serves identity timeout)
  have hcomposed := disconnect_composed (B := Tacits identity) (t := t) (fun _ => trivial) session
  apply (hcourse.both (hcomposed.keeps asks_tacits)).imp_left
  exact fun _ _ h => ⟨hserves, h⟩

/-- The peer has been made sure of exactly if connecting goes well. -/
theorem connect_asks (hserves : session.Serves identity timeout) :
  Act.Ensures (Since base (Asks identity request .unvetted)) (session.connect t)
    fun r state calls => (r.2 = .ok () → r.1.isConnected = true)
      ∧ Since base (Asks identity request (.begun r.2.isOk)) state calls
  := by
  have hhangUp : (perform t.hangUp fun _ => .hangUp).Keeps
      (Since base (Asks identity request .unvetted)) := asks_tacits _ _ _ fun _ => trivial
  unfold Session.connect
  extract_lets jp
  have hjp : ∀ session : Session, session.isConnected = false ∧ session.Serves identity timeout →
      Act.Ensures (Since base (Asks identity request .unvetted)) (jp session)
        fun r state calls => (r.2 = .ok () → r.1.isConnected = true)
          ∧ Since base (Asks identity request (.begun r.2.isOk)) state calls := by
    rintro session ⟨hclosed, hserves⟩
    apply (configure_asks hclosed hserves).bind
    rintro ⟨session, fault | pin⟩
    · exact .pure fun _ _ h => ⟨by rintro ⟨⟩, h.2⟩
    apply Act.Ensures.of_fact
    intro hpin
    apply Act.Ensures.bind (asks_tacits _ (t.dial _ _) (.dial _ _) fun _ => trivial)
    rintro (fault | ⟨⟩)
    · apply Act.Ensures.bind_report
      apply Act.Ensures.bind hhangUp
      intro _
      exact .pure fun _ _ h => ⟨by rintro ⟨⟩, h⟩
    apply Act.Ensures.bind_report
    apply (establish_asks (hpin pin rfl)).bind
    rintro (fault | ⟨⟩)
    · apply Act.Ensures.bind_report
      apply Act.Ensures.bind hhangUp
      intro _
      exact .pure fun _ _ h => ⟨by rintro ⟨⟩, h⟩
    · apply Act.Ensures.bind_report
      exact .pure fun _ _ h => ⟨fun _ => rfl, h⟩
  split
  case isTrue =>
    apply Act.Ensures.bind_report
    apply (disconnect_asks hserves).bind
    intro session
    exact .of_fact (hjp session)
  case isFalse hclosed =>
    simp only [pure_bind]
    apply hjp session ⟨eq_false_of_ne_true hclosed, hserves⟩

/-- What can be sent next is offered, and a rest of it is left. -/
theorem offer_asks {what : String} {bytes : Bytes} (hnext : asking.next? request = some bytes) :
  Act.Ensures (Since base (Asks identity request asking))
    (retry timeout what (perform (t.send bytes) (.send bytes)))
    fun outcome => Since base (Asks identity request
      (.asked (outcome.toOption.elim bytes bytes.drop)))
  := by
  have hround : ∀ {asking : Asking}, asking.next? request = some bytes →
      Act.Ensures (Since base (Asks identity request asking))
        (perform (t.send bytes) (.send bytes))
        (Progress.Allows (Since base (Asks identity request (.asked bytes)))
          fun outcome => Since base (Asks identity request
            (.asked (outcome.toOption.elim bytes bytes.drop)))) := by
    intro asking hnext
    apply Act.Ensures.perform
    rintro site _ ⟨made, rfl, hmade⟩
    have hsent := Asks.send (t.send bytes site).1 hnext hmade
    revert hsent
    cases (t.send bytes site).1 with
    | ready count => exact fun hsent => ⟨_, rfl, hsent⟩
    | retry spent => exact fun hsent => ⟨_, rfl, hsent⟩
    | failed message => exact fun hsent _ => ⟨_, rfl, hsent⟩
  -- only the first round may find that nothing has been sent yet
  exact (hround hnext).retry_first (hround rfl) fun _ _ _ h => h

/-- What can be sent next is offered until nothing of it is left. -/
theorem sendAll_asks {bytes : Bytes} (hnext : asking.next? request = some bytes)
    (hne : asking = .vetted → bytes ≠ []) :
  Act.Ensures (Since base (Asks identity request asking)) (session.sendAll t bytes)
    fun _ => Since base (AsksFor identity request)
  := by
  induction bytes using sendAll.induct generalizing asking with
  | case1 bytes hempty =>
      rw [sendAll, if_pos hempty]
      apply Act.Ensures.pure
      rintro _ _ ⟨made, hcalls, hmade⟩
      refine ⟨made, hcalls, asking, ?_, hmade⟩
      intro hvetted
      apply hne hvetted (List.isEmpty_iff.mp hempty)
  | case2 bytes hnonempty ih =>
      have hdisconnect : ∀ rest, Act.Ensures (Since base (Asks identity request (.asked rest)))
          (session.disconnect t) fun _ => Since base (AsksFor identity request) := by
        intro rest
        have hcomposed := disconnect_composed (B := Tacits identity) (t := t) (fun _ => trivial)
          session
        apply (hcomposed.keeps asksFor_tacits).imp_left
        rintro _ _ ⟨made, hcalls, hmade⟩
        exact ⟨made, hcalls, .asked rest, by rintro ⟨⟩, hmade⟩
      rw [sendAll, if_neg hnonempty]
      apply (offer_asks hnext).bind
      intro sent
      split
      · apply Act.Ensures.bind_report
        apply Act.Ensures.map
        apply hdisconnect
      · apply Act.Ensures.map
        apply hdisconnect
      case h_3 n =>
        dsimp only
        split
        · apply Act.Ensures.bind_report
          apply ih n rfl
          rintro ⟨⟩
        · apply ih n rfl
          rintro ⟨⟩

end Session

namespace Client

variable {timeout : Duration} {session : Session}

/-- Whatever goes wrong, nothing is sent but the request, and it is sent to a peer that has been
made sure of. -/
theorem begin_asks (hserves : session.Serves identity timeout) (request : Request) :
  Act.Ensures (fun _ calls => calls = base) (begin t session request)
    fun _ => Since base (AsksFor identity request.bytes)
  := by
  have hconnect : Act.Ensures (fun _ calls => calls = base) (session.connect t)
      fun r state calls => (r.2 = .ok () → r.1.isConnected = true)
        ∧ Since base (Asks identity request.bytes (.begun r.2.isOk)) state calls :=
    (Session.connect_asks hserves).imp_left fun _ _ h => ⟨[], h, .nil⟩
  unfold begin
  apply hconnect.bind
  rintro ⟨session, fault | ⟨⟩⟩
  · apply Act.Ensures.pure
    rintro _ _ ⟨-, made, hcalls, hmade⟩
    exact ⟨made, hcalls, _, by rintro ⟨⟩, hmade⟩
  · apply Act.Ensures.of_fact
    intro hconnected
    have hconnected : session.isConnected = true := hconnected rfl
    dsimp only
    unfold Session.ask
    rw [if_pos hconnected]
    exact Session.sendAll_asks rfl fun _ => request.bytes_ne

theorem openStream_asks {client : Client} (hserves : client.session.Serves identity timeout)
    (request : Request) (capacity : Nat) :
  Act.Ensures (fun _ calls => calls = base) (client.openStream t request capacity)
    fun _ => Since base (AsksFor identity request.bytes)
  := by
  unfold openStream
  apply Act.Ensures.bind_report
  have hbegin : Act.Ensures (fun _ calls => calls = base) (begin t client.advance.session request)
      fun _ => Since base (AsksFor identity request.bytes) :=
    begin_asks hserves request
  apply hbegin.bind
  rintro ⟨session, fault | ⟨⟩⟩
  · apply Act.Ensures.bind_reportAll
    exact .pure fun _ _ h => h
  · exact .pure fun _ _ h => h

end Client

end FirmwareUpdate
