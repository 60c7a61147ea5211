import FirmwareUpdate.Proofs.Throughout
import FirmwareUpdate.Proofs.Session.Life
import FirmwareUpdate.Proofs.Worker.Tidy
import FirmwareUpdate.Proofs.Http.Asking

/-!
# Sessions in step with their connections

A session is connected exactly if the transport has a connection that was opened and has not been
closed since, between any two actions and whatever the transport answers. A connection is opened
only while there is none, and the transport is not configured again once that has gone well. What
ends an exchange closes the connection and leaves the session idle; a connection that could not be
established leaves it idle too, or as it was started, and it can be connected again.

The main statement is `acts_inStep`.
-/

namespace FirmwareUpdate

variable {σ : Type}

/-- Whether a connection has been opened and not been closed since, by the calls made so far, the
latest first. -/
def isOnline : List Call → Bool
  | [] => false
  | .dial _ _ (.ok ()) :: _ => true
  | .hangUp :: _ => false
  | _ :: earlier => isOnline earlier

theorem isOnline_cons_of_isExchange {call : Call} {calls : List Call}
    (h : call.isExchange = true) :
  isOnline (call :: calls) = isOnline calls
  := by
  cases call <;> first | rfl | cases h

theorem isOnline_cons_of_isOffline {call : Call} {calls : List Call} (h : call.isOffline = true) :
  isOnline (call :: calls) = isOnline calls
  := by
  cases call <;> first | rfl | cases h

namespace Linked

variable {isOpen : Bool} {calls : List Call}

theorem isOnline_eq (h : Linked isOpen calls) :
  isOnline calls = isOpen
  := by
  induction h with
  | nil => rfl
  | dialled _ _ _ => rfl
  | unreachable _ _ _ _ ih => exact ih
  | used hcall _ ih => rw [isOnline_cons_of_isExchange hcall, ih]
  | closed _ => rfl
  | beside hcall _ ih => rw [isOnline_cons_of_isOffline hcall, ih]

/-- A connection is opened only while there is none. -/
theorem dial_offline (h : Linked isOpen calls) :
  Throughout (fun call earlier =>
    ∀ host port outcome, call = .dial host port outcome → isOnline earlier = false) calls
  := by
  induction h with
  | nil => exact .nil
  | dialled _ _ h ih | unreachable _ _ _ h ih => exact ih.cons fun _ _ _ _ => h.isOnline_eq
  | used hcall _ ih | beside hcall _ ih => exact ih.cons (by rintro _ _ _ rfl; cases hcall)
  | closed _ ih => exact ih.cons (by rintro _ _ _ ⟨⟩)

end Linked

namespace Session

variable {t : Transport σ} {session : Session} {pin : Pin} {calls : List Call}

/-! ### Configuring once -/

/-- The transport has been configured for a session exactly if the session shows it, and never
again after that had gone well. -/
structure SetUp (session : Session) (calls : List Call) : Prop where
  unconfigured_iff : session.stage = .unconfigured ↔ .configure (.ok ()) ∉ calls
  once : Throughout (fun call earlier =>
    ∀ outcome, call = .configure outcome → .configure (.ok ()) ∉ earlier) calls

theorem SetUp.start (identity : Identity) (timeout : Duration) :
  SetUp { identity, timeout } []
  := by
  constructor
  · simp
  · exact .nil

/-- What has nothing to do with configuring. -/
theorem SetUp.cons {call : Call} (h : session.SetUp calls)
    (hcall : ∀ outcome, call ≠ .configure outcome) :
  session.SetUp (call :: calls)
  := by
  constructor
  · rw [h.unconfigured_iff, List.mem_cons, not_or]
    simp [(hcall (.ok ())).symm]
  · exact h.once.cons fun outcome heq => absurd heq (hcall outcome)

/-- A session that the transport has not been configured for yet is as ready as the answer says
when it has been asked for. -/
theorem SetUp.configured {after : Session} {outcome : Outcome} (h : session.SetUp calls)
    (hstage : session.stage = .unconfigured)
    (hafter : after.stage = .unconfigured ↔ outcome.isOk = false) :
  after.SetUp (.configure outcome :: calls)
  := by
  have hcalls : .configure (.ok ()) ∉ calls := h.unconfigured_iff.mp hstage
  constructor
  · rw [hafter, List.mem_cons, not_or]
    cases outcome with
    | ok _ => simp [Except.isOk, Except.toBool]
    | error fault => simp [Except.isOk, Except.toBool, hcalls]
  · exact h.once.cons fun _ _ => hcalls

/-- Opening and closing connections changes nothing about being configured. -/
theorem SetUp.restage {stage : Stage} (h : session.SetUp calls)
    (hstage : stage = .unconfigured ↔ session.stage = .unconfigured) :
  SetUp { session with stage } calls
  := ⟨hstage.trans h.unconfigured_iff, h.once⟩

theorem perform_setUp {α : Type} {op : Op σ α} {entry : α → Call}
    (hentry : ∀ a outcome, entry a ≠ .configure outcome) :
  (perform op entry).Keeps fun _ calls => session.SetUp calls
  := Act.Ensures.perform fun _ _ h => h.cons (hentry _)

theorem course_setUp (t : Transport σ) :
  t.Course (fun session _ calls => session.SetUp calls) (fun session _ calls => session.SetUp calls)
  where
  configure {session pin} hstage _ := by
    apply Act.Ensures.perform
    intro site _ h
    cases (t.configure session.identity site).1 with
    | ok _ => exact h.configured hstage (by simp [Except.isOk, Except.toBool])
    | error _ => exact h.configured hstage (by simp [hstage, Except.isOk, Except.toBool])
  reset _ := perform_setUp (by simp)
  dial host port _ :=
    (perform_setUp (by simp)).imp_right fun outcome _ _ h => by cases outcome <;> exact h
  handshake _ := perform_setUp (by simp)
  verifyChain _ := perform_setUp (by simp)
  peerCertificate _ := perform_setUp (by simp)
  establish hstage h := h.restage (by simp [hstage])
  giveUp _ := perform_setUp (by simp)
  hangUpIdle _ := perform_setUp (by simp)
  send _ _ := perform_setUp (by simp)
  receive _ _ := perform_setUp (by simp)
  hangUp hstage := (perform_setUp (by simp)).imp_right fun _ _ _ h => h.restage (by simp [hstage])

/-! ### Connections that are not established -/

/-- How a session stands after connecting has failed with a fault, and the calls by then: the pin
cannot be read, the transport cannot be configured, or there is no connection and the session is
idle. -/
inductive Refused (session : Session) (fault : Fault) (before : List Call) :
    Session → List Call → Prop
  | unreadable :
      session.stage = .unconfigured →
      Pin.ofPem session.identity.peerCertificate = .error fault →
      Refused session fault before session before
  | unconfigurable {pin : Pin} :
      session.stage = .unconfigured →
      Pin.ofPem session.identity.peerCertificate = .ok pin →
      Refused session fault before session (.reset :: .configure (.error fault) :: before)
  | unreachable {pin : Pin} {made : List Call} :
      Pin.ofPem session.identity.peerCertificate = .ok pin →
      (∀ fault, .configure (.error fault) ∉ made) →
      Refused session fault before { session with stage := .idle pin } (made ++ before)

/-- What holds while a session that is configured is led on: no attempt to configure fails. -/
def KeptUp (before : List Call) (session : Session) : Assertion σ :=
  fun state calls => session.stage ≠ .unconfigured
    ∧ Since before (fun made => ∀ fault, .configure (.error fault) ∉ made) state calls

theorem perform_keptUp {α : Type} {op : Op σ α} {entry : α → Call} {before : List Call}
    (hentry : ∀ a outcome, entry a ≠ .configure outcome) :
  (perform op entry).Keeps (KeptUp before session)
  := by
  apply Act.Ensures.perform
  rintro site _ ⟨hstage, made, rfl, hmade⟩
  refine ⟨hstage, entry (op site).1 :: made, rfl, ?_⟩
  intro fault
  rw [List.mem_cons, not_or]
  exact ⟨(hentry _ _).symm, hmade fault⟩

theorem course_keptUp (t : Transport σ) (before : List Call) :
  t.Course (KeptUp before) (KeptUp before)
  where
  configure hstage _ := Act.Ensures.of_fact fun hne => absurd hstage hne
  reset _ := perform_keptUp (by simp)
  dial host port _ :=
    (perform_keptUp (by simp)).imp_right fun outcome _ _ h => by cases outcome <;> exact h
  handshake _ := perform_keptUp (by simp)
  verifyChain _ := perform_keptUp (by simp)
  peerCertificate _ := perform_keptUp (by simp)
  establish _ h := ⟨by simp, h.2⟩
  giveUp _ := perform_keptUp (by simp)
  hangUpIdle _ := perform_keptUp (by simp)
  send _ _ := perform_keptUp (by simp)
  receive _ _ := perform_keptUp (by simp)
  hangUp _ := (perform_keptUp (by simp)).imp_right fun _ _ _ h => ⟨by simp, h.2⟩

/-- A session that is configured and not connected is idle, with the pin of the server. -/
theorem Serves.idle_of_configured {identity : Identity} {timeout : Duration}
    (h : session.Serves identity timeout) (hclosed : session.isConnected = false)
    (hstage : session.stage ≠ .unconfigured) :
  ∃ pin, Pin.ofPem identity.peerCertificate = .ok pin
    ∧ session = { identity, timeout, stage := .idle pin }
  := by
  obtain ⟨identity', timeout', stage⟩ := session
  obtain ⟨rfl, rfl, hidle, -⟩ := h
  cases stage with
  | unconfigured => exact absurd rfl hstage
  | idle pin => exact ⟨pin, hidle pin rfl, rfl⟩
  | connected _ => cases hclosed

/-- If a session that is configured cannot be connected, the transport stays configured. -/
theorem connect_unreachable {fault : Fault} {after : Session} {scene later : Scene σ}
    (hserves : session.Serves session.identity session.timeout)
    (hstage : session.stage ≠ .unconfigured)
    (hconnect : session.connect t scene = ((after, .error fault), later)) :
  Refused session fault scene.calls after later.calls
  := by
  have hserved := (connect_course (t.course_serves session.identity session.timeout)).run scene
    hserves
  have hkept := (connect_course (course_keptUp t scene.calls)).run scene
    ⟨hstage, [], rfl, by simp⟩
  rw [hconnect] at hserved hkept
  obtain ⟨hclosed, hserves⟩ := hserved
  obtain ⟨-, hstage, made, hcalls, hmade⟩ := hkept
  obtain ⟨pin, hpin, rfl⟩ := hserves.idle_of_configured hclosed hstage
  rw [hcalls]
  apply Refused.unreachable hpin hmade

theorem isConnected_of_unconfigured (hstage : session.stage = .unconfigured) :
  session.isConnected = false
  := by
  rw [isConnected, hstage]

theorem connect_unreadable {fault : Fault} (hstage : session.stage = .unconfigured)
    (hpin : Pin.ofPem session.identity.peerCertificate = .error fault) :
  session.connect t = pure (session, .error fault)
  := by
  simp [Session.connect, configure, isConnected, hstage, hpin]

theorem connect_unconfigurable {fault : Fault} {scene : Scene σ} {site : Site σ}
    (hstage : session.stage = .unconfigured)
    (hpin : Pin.ofPem session.identity.peerCertificate = .ok pin)
    (hconfigure : t.configure session.identity scene.toSite = (.error fault, site)) :
  (session.connect t scene).1 = (session, .error fault)
    ∧ (session.connect t scene).2.calls = .reset :: .configure (.error fault) :: scene.calls
  := by
  have hopen : session.isConnected = false := isConnected_of_unconfigured hstage
  simp only [Session.connect, hopen, Bool.false_eq_true, if_false, pure_bind, configure, hstage,
    hpin, bind_assoc]
  rw [Act.bind_eq (perform_eq hconfigure)]
  constructor <;> rfl

theorem connect_configured {scene : Scene σ} {site : Site σ}
    (hstage : session.stage = .unconfigured)
    (hpin : Pin.ofPem session.identity.peerCertificate = .ok pin)
    (hconfigure : t.configure session.identity scene.toSite = (.ok (), site)) :
  ∃ configured : Scene σ, configured.calls = .configure (.ok ()) :: scene.calls
    ∧ session.connect t scene
      = ({ session with stage := .idle pin } : Session).connect t configured
  := by
  have hopen : session.isConnected = false := isConnected_of_unconfigured hstage
  simp only [Session.connect, hopen, Bool.false_eq_true, if_false, pure_bind, configure, hstage,
    hpin, bind_assoc]
  rw [Act.bind_eq (perform_eq hconfigure)]
  exact ⟨_, rfl, rfl⟩

theorem Refused.of_configured {fault : Fault} {before : List Call} {after : Session}
    (h : Refused { session with stage := .idle pin } fault (.configure (.ok ()) :: before) after
      calls) :
  Refused session fault before after calls
  := by
  cases h with
  | unreadable hstage | unconfigurable hstage => cases hstage
  | @unreachable pin made hpin hmade =>
      have hread : Pin.ofPem session.identity.peerCertificate = .ok pin := hpin
      rw [← List.singleton_append, ← List.append_assoc]
      apply Refused.unreachable hread
      intro unset
      rw [List.mem_append, not_or]
      exact ⟨hmade unset, by simp⟩

/-- A session for which connecting fails is refused in one of three ways. -/
theorem connect_refused {fault : Fault} {after : Session} {scene later : Scene σ}
    (hserves : session.Serves session.identity session.timeout)
    (hconnect : session.connect t scene = ((after, .error fault), later)) :
  Refused session fault scene.calls after later.calls
  := by
  by_cases hstage : session.stage = .unconfigured
  case neg => exact connect_unreachable hserves hstage hconnect
  -- the pin is read first; once the transport is configured, the session goes on as an idle one
  cases hpin : Pin.ofPem session.identity.peerCertificate with
  | error unread =>
      rw [connect_unreadable hstage hpin] at hconnect
      obtain ⟨⟨rfl, ⟨rfl⟩⟩, rfl⟩ := hconnect
      apply Refused.unreadable hstage hpin
  | ok pin =>
      cases hconfigure : t.configure session.identity scene.toSite with
      | mk outcome site =>
          cases outcome with
          | error unset =>
              obtain ⟨hresult, hcalls⟩ := connect_unconfigurable hstage hpin hconfigure
              rw [hconnect] at hresult hcalls
              obtain ⟨rfl, ⟨rfl⟩⟩ := hresult
              rw [hcalls]
              apply Refused.unconfigurable hstage hpin
          | ok _ =>
              obtain ⟨configured, hcalls, heq⟩ := connect_configured hstage hpin hconfigure
              rw [heq] at hconnect
              have hconfigured :
                  ({ session with stage := .idle pin } : Session).Serves session.identity
                    session.timeout :=
                ⟨rfl, rfl, by rintro _ ⟨rfl⟩; exact hpin, by rintro _ ⟨⟩⟩
              have hrefused := connect_unreachable hconfigured (by simp) hconnect
              rw [hcalls] at hrefused
              apply hrefused.of_configured

/-! ### Connecting again -/

/-- Calls are added to a record, never taken from it. -/
theorem Transport.keeps_suffix (t : Transport σ) (base : List Call) :
  t.Keeps fun _ calls => base <:+ calls
  := Transport.Keeps.of_le fun _ _ _ _ =>
    Act.Ensures.perform fun _ _ h => h.trans (List.suffix_cons _ _)

/-- An idle session dials when it is told to connect, before anything else. -/
theorem connect_dials (hstage : session.stage = .idle pin) (scene : Scene σ) :
  ∃ outcome, .dial session.identity.host session.identity.port outcome :: scene.calls
    <:+ (session.connect t scene).2.calls
  := by
  have hclosed : session.isConnected = false := by rw [isConnected, hstage]
  have hbase (outcome : Outcome) := (Transport.keeps_suffix t
    (.dial session.identity.host session.identity.port outcome :: scene.calls)).course
  suffices h : Act.Ensures (fun _ calls => calls = scene.calls) (session.connect t)
      fun _ _ calls => ∃ outcome,
        .dial session.identity.host session.identity.port outcome :: scene.calls <:+ calls from
    h.run scene rfl
  simp only [Session.connect, hclosed, Bool.false_eq_true, if_false, pure_bind, configure, hstage]
  apply Act.Ensures.bind_perform fun outcome _ calls =>
    .dial session.identity.host session.identity.port outcome :: scene.calls <:+ calls
  · rintro _ _ rfl
    apply List.suffix_refl
  rintro (fault | ⟨⟩)
  · apply Act.Ensures.bind_report
    apply Act.Ensures.bind ((hbase _).hangUpIdle hstage)
    intro _
    exact .pure fun _ _ h => ⟨_, h⟩
  apply Act.Ensures.bind_report
  apply Act.Ensures.bind (R := fun _ _ calls =>
    .dial session.identity.host session.identity.port (.ok ()) :: scene.calls <:+ calls)
  · exact establish_course (hbase (.ok ()))
  rintro (fault | ⟨⟩)
  · apply Act.Ensures.bind_report
    apply Act.Ensures.bind ((hbase _).hangUpIdle hstage)
    intro _
    exact .pure fun _ _ h => ⟨_, h⟩
  · apply Act.Ensures.bind_report
    exact .pure fun _ _ h => ⟨_, h⟩

/-- A session that can be connected, though it is not: it is as it was started, or it is idle and
dials when it is told to connect, before anything else. -/
inductive Connectable (t : Transport σ) (identity : Identity) (timeout : Duration) :
    Session → Prop
  | fresh : Connectable t identity timeout { identity, timeout }
  | idle {session : Session} {pin : Pin} :
      session.stage = .idle pin →
      (∀ scene : Scene σ, ∃ outcome,
        .dial identity.host identity.port outcome :: scene.calls
          <:+ (session.connect t scene).2.calls) →
      Connectable t identity timeout session

theorem Serves.start (identity : Identity) (timeout : Duration) :
  ({ identity, timeout } : Session).Serves identity timeout
  := ⟨rfl, rfl, by rintro _ ⟨⟩, by rintro _ ⟨⟩⟩

theorem Serves.connectable {identity : Identity} {timeout : Duration}
    (h : session.Serves identity timeout) (hclosed : session.isConnected = false) :
  Connectable t identity timeout session
  := by
  obtain ⟨identity, timeout, stage⟩ := session
  obtain ⟨rfl, rfl, -, -⟩ := h
  cases stage with
  | unconfigured => apply Connectable.fresh
  | idle pin => exact .idle rfl fun scene => connect_dials rfl scene
  | connected _ => cases hclosed

/-! ### Actions -/

/-- The ways in which an exchange comes to its end: the request cannot be sent as a whole, reading
fails, the response is at its end, it is given up, or the whole exchange has been made by one
request, whatever has ended it. -/
inductive Ended (t : Transport σ) (session : Session) (scene : Scene σ) :
    Session → Scene σ → Prop
  | unsent {request : Bytes} {fault : Fault} {after : Session} {later : Scene σ} :
      session.ask t request scene = ((after, .error fault), later) →
      Ended t session scene after later
  | unread {capacity index : Nat} {fault : Fault} {after : Session} {later : Scene σ} :
      session.readChunk t capacity index scene = ((after, .error fault), later) →
      Ended t session scene after later
  | complete {capacity index : Nat} {after : Session} {later : Scene σ} :
      session.readChunk t capacity index scene = ((after, .ok none), later) →
      Ended t session scene after later
  | finished {after : Session} {later : Scene σ} :
      session.finish t scene = (after, later) →
      Ended t session scene after later
  | requested {bytes : Bytes} {capacity : Nat} {accept : Nat → Bytes → Bool} {count : Nat}
      {after : Session} {result : List Bytes × Outcome} {later : Scene σ} :
      session.request t bytes capacity accept count scene = ((after, result), later) →
      Ended t session scene after later

section

variable {I J : Session → Assertion σ}

/-- An exchange that has come to its end leaves no connection. -/
theorem Ended.course {scene later : Scene σ} {after : Session}
    (h : Ended t session scene after later) (ht : t.Course I J)
    (hI : I session scene.state scene.calls) :
  Stands I false after later.state later.calls
  := by
  cases h with
  | @unsent request _ _ _ heq =>
      have hstands := (ask_course ht request).run scene hI
      rwa [heq] at hstands
  | @unread capacity index _ _ _ heq | @complete capacity index _ _ heq =>
      have hstands := (readChunk_course ht capacity index).run scene hI
      rwa [heq] at hstands
  | finished heq =>
      have hstands := (finish_course ht).run scene hI
      rwa [heq] at hstands
  | @requested bytes capacity accept count _ _ _ heq =>
      have hrequest : Act.Ensures (I session) (session.request t bytes capacity accept count)
          fun r => Stands I false r.1 := request_course ht
      have hstands := hrequest.run scene hI
      rwa [heq] at hstands

theorem act_course (h : t.Course I J) (action : Action) :
  Act.Ensures (I session) (session.act t action) I
  := by
  cases action with
  | connect => exact ((connect_course h).imp_right fun _ _ _ hr => hr.2).map
  | disconnect => exact (disconnect_course h).imp_right fun _ _ _ hr => hr.2
  | ask request => exact ((ask_course h request).imp_right fun _ _ _ hr => hr.2).map
  | readChunk capacity index =>
      exact ((readChunk_course h capacity index).imp_right fun _ _ _ hr => hr.2).map
  | finish => exact (finish_course h).imp_right fun _ _ _ hr => hr.2
  | request _ _ _ _ => exact ((request_course h).imp_right fun _ _ _ hr => hr.2).map

theorem acts_course (h : t.Course I J) (actions : List Action) :
  Act.Ensures (I session) (session.acts t actions) I
  := by
  induction actions generalizing session with
  | nil => exact .pure fun _ _ hI => hI
  | cons action actions ih =>
      apply (act_course h action).bind
      intro _
      apply ih

end

/-- A session and the calls by then are in step: the session is connected exactly if a connection
is open, every connection was opened while there was none, and the transport has been configured
at most once. -/
structure InStep (session : Session) (calls : List Call) : Prop
    extends session.SetUp calls where
  isConnected_eq : session.isConnected = isOnline calls
  dial_offline : Throughout (fun call earlier =>
    ∀ host port outcome, call = .dial host port outcome → isOnline earlier = false) calls

/-- What is known of every session that has been led on from its start, and of the calls by then.
A session has nothing to do with the slots. -/
structure Led (identity : Identity) (timeout : Duration) (session : Session) (calls : List Call) :
    Prop where
  serves : session.Serves identity timeout
  setUp : session.SetUp calls
  linked : Linked session.isConnected calls
  handled : Handled .vacant calls

theorem acts_led (t : Transport σ) (identity : Identity) (timeout : Duration)
    (actions : List Action) (site : Site σ) :
  let (session, scene) := ({ identity, timeout } : Session).acts t actions { toSite := site }
  session.Led identity timeout scene.calls
  := by
  have hserves := (acts_course (t.course_serves identity timeout) actions).run { toSite := site }
    (.start identity timeout)
  have hsetUp := (acts_course (course_setUp t) actions).run { toSite := site }
    (.start identity timeout)
  have hstart : Recorded { identity, timeout } (.vacant : Hold Unit) site.state [] :=
    ⟨.nil, .nil⟩
  have hrecorded := (acts_course (t.course_recorded .vacant) actions).run { toSite := site } hstart
  exact ⟨hserves, hsetUp, hrecorded.1, hrecorded.2⟩

namespace Led

variable {identity : Identity} {timeout : Duration} {scene later : Scene σ} {after : Session}

theorem inStep (h : session.Led identity timeout calls) :
  session.InStep calls
  := ⟨h.setUp, h.linked.isOnline_eq.symm, h.linked.dial_offline⟩

theorem recorded (h : session.Led identity timeout scene.calls) :
  Recorded session (.vacant : Hold Unit) scene.state scene.calls
  := ⟨h.linked, h.handled⟩

theorem refused {fault : Fault} (h : session.Led identity timeout scene.calls)
    (hconnect : session.connect t scene = ((after, .error fault), later)) :
  session.Refused fault scene.calls after later.calls
    ∧ isOnline later.calls = false ∧ Connectable t identity timeout after
  := by
  have hserves := (connect_course (t.course_serves identity timeout)).run scene h.serves
  have hrecorded := (connect_course (t.course_recorded .vacant)).run scene h.recorded
  rw [hconnect] at hserves hrecorded
  obtain ⟨hclosed, hserves⟩ := hserves
  obtain ⟨-, hlinked, -⟩ := hrecorded
  refine ⟨?_, ?_, hserves.connectable hclosed⟩
  · apply connect_refused _ hconnect
    rw [h.serves.identity_eq, h.serves.timeout_eq]
    exact h.serves
  · exact hlinked.isOnline_eq.trans hclosed

theorem ended (h : session.Led identity timeout scene.calls)
    (hended : Ended t session scene after later) :
  isOnline later.calls = false
    ∧ (session.stage ≠ .unconfigured →
      ∃ pin, Pin.ofPem identity.peerCertificate = .ok pin
        ∧ after = { identity, timeout, stage := .idle pin })
  := by
  obtain ⟨hclosed, hserves⟩ := hended.course (t.course_serves identity timeout) h.serves
  obtain ⟨-, hlinked, -⟩ := hended.course (t.course_recorded .vacant) h.recorded
  constructor
  · rw [hlinked.isOnline_eq, hclosed]
  · intro hstage
    obtain ⟨-, hstage, -⟩ :=
      hended.course (course_keptUp t scene.calls) ⟨hstage, [], rfl, by simp⟩
    apply hserves.idle_of_configured hclosed hstage

/-- The end of a session closes its connection. -/
theorem close_offline (h : session.Led identity timeout scene.calls) :
  isOnline (session.close t scene).2.calls = false
  := by
  have hrecorded := (disconnect_course (t.course_recorded .vacant)).run scene h.recorded
  obtain ⟨hclosed, hlinked, -⟩ := hrecorded
  rw [hclosed] at hlinked
  apply hlinked.isOnline_eq

end Led

/-- Whatever is done with a session, and whatever the transport answers, the session and its
connection are in step. A connection that fails to be established is not left open, and the
session can be connected again; what ends an exchange closes the connection, and so does the end
of the session. -/
theorem acts_inStep (t : Transport σ) (identity : Identity) (timeout : Duration)
    (actions : List Action) (site : Site σ) :
  let (session, scene) := ({ identity, timeout } : Session).acts t actions { toSite := site }
  session.InStep scene.calls
    ∧ (∀ fault after later, session.connect t scene = ((after, .error fault), later) →
      session.Refused fault scene.calls after later.calls
        ∧ isOnline later.calls = false ∧ Connectable t identity timeout after)
    ∧ (∀ after later, Ended t session scene after later →
      isOnline later.calls = false
        ∧ (session.stage ≠ .unconfigured →
          ∃ pin, Pin.ofPem identity.peerCertificate = .ok pin
            ∧ after = { identity, timeout, stage := .idle pin }))
    ∧ isOnline (session.close t scene).2.calls = false
  := by
  have h := acts_led t identity timeout actions site
  exact ⟨h.inStep, fun _ _ _ => h.refused, fun _ _ => h.ended, h.close_offline⟩

/-- A server that is out of reach once: the session is idle then, connected by the next attempt, and
idle again after a response that was given up. -/
example :
  let identity : Identity := ⟨"h", 443, "r", Bench.Rig.sampleText⟩
  let rig : Bench.Rig := {
    peer := { certificate := Bench.Rig.sampleCertificate, queue := [{}] }
    slots := { boot := "factory" }
    disturbances := [("open", [some (.fail "unreachable")])] }
  let stage (actions : List Action) : Stage :=
    (({ identity, timeout := ⟨1⟩ } : Session).acts Bench.Rig.transport actions
      { toSite := { state := rig } }).1.stage
  stage [.connect] = .idle ⟨[0x30, 0]⟩
    ∧ stage [.connect, .connect] = .connected ⟨[0x30, 0]⟩
    ∧ stage [.connect, .connect, .ask [1], .finish] = .idle ⟨[0x30, 0]⟩
  := by
  decide +kernel

end Session

end FirmwareUpdate
