import FirmwareUpdate.Proofs.Ensures
import FirmwareUpdate.Proofs.Session.Life

/-!
# Vetted connections

Bytes are sent to a peer only after the peer has been made sure of, on the connection that
they are sent on. How far that has come is read off the record of calls: a connection is
opened, the handshake is tried until it is done, the certificate chain holds, and the
presented certificate carries the pinned key, in this order and with nothing in between. Only
sending and receiving keep a connection vetted.

The main statement is `live_guarded`: in the life of a session every call that sends bytes
finds the connection vetted.
-/

namespace FirmwareUpdate

variable {σ : Type}

/-- How far the checks of an open connection have come. -/
inductive Check
  | dialled
  | shaken
  | chained
  | vetted

/-- How far the connection to the server of `identity` has come, by the calls made so far, the
latest first. -/
inductive Checked (identity : Identity) : Check → List Call → Prop
  | dial (calls : List Call) :
      Checked identity .dialled (.dial identity.host identity.port (.ok ()) :: calls)
  | tryAgain {calls : List Call} (spent : Duration) :
      Checked identity .dialled calls →
      Checked identity .dialled (.handshake (.retry spent) :: calls)
  | shake {calls : List Call} :
      Checked identity .dialled calls →
      Checked identity .shaken (.handshake (.ready ()) :: calls)
  | chain {calls : List Call} :
      Checked identity .shaken calls →
      Checked identity .chained (.verifyChain (.ok ()) :: calls)
  | key {calls : List Call} {pin : Pin} {certificate : Bytes} :
      Pin.ofPem identity.peerCertificate = .ok pin →
      Pin.keyOfCertificate certificate = .ok pin.key →
      Checked identity .chained calls →
      Checked identity .vetted (.peerCertificate (some certificate) :: calls)
  | send {calls : List Call} (offered : Bytes) (progress : Progress Nat) :
      Checked identity .vetted calls →
      Checked identity .vetted (.send offered progress :: calls)
  | receive {calls : List Call} (capacity : Nat) (progress : Progress Bytes) :
      Checked identity .vetted calls →
      Checked identity .vetted (.receive capacity progress :: calls)

/-- Every call of the record that sends bytes has found the connection vetted. -/
def Guarded (identity : Identity) (calls : List Call) : Prop :=
  ∀ later offered progress earlier,
    calls = later ++ .send offered progress :: earlier → Checked identity .vetted earlier

namespace Guarded

variable {identity : Identity} {calls : List Call}

theorem nil :
  Guarded identity []
  := by
  intro later _ _ _ h
  cases later <;> cases h

/-- A call after a guarded record has to find the connection vetted only if it sends. -/
theorem cons {call : Call} (h : Guarded identity calls)
    (hcall : ∀ offered progress, call = .send offered progress → Checked identity .vetted calls) :
  Guarded identity (call :: calls)
  := by
  intro later offered progress earlier heq
  cases later with
  | nil =>
      obtain ⟨rfl, rfl⟩ := List.cons.inj heq
      apply hcall _ _ rfl
  | cons _ later =>
      obtain ⟨-, rfl⟩ := List.cons.inj heq
      apply h _ _ _ _ rfl

end Guarded

/-! ### Sound sessions -/

/-- A pin accepts exactly the certificates that carry its key. -/
theorem Pin.verify_eq_ok_iff {pin : Pin} {certificate : Bytes} :
  pin.verify certificate = .ok () ↔ keyOfCertificate certificate = .ok pin.key
  := by
  unfold verify
  cases keyOfCertificate certificate with
  | error fault => simp [bind, Except.bind]
  | ok actual =>
      simp only [bind, Except.bind, Except.ok.injEq]
      split <;> simp_all

namespace Session

variable {identity : Identity} {session : Session} {t : Transport σ} {pin : Pin}

/-- What holds of a session for `identity` after a record of calls: sending was guarded, the
pin is the one of the identity, and an established connection is vetted. -/
structure Sound (identity : Identity) (session : Session) (calls : List Call) : Prop where
  identity_eq : session.identity = identity
  guarded : Guarded identity calls
  idle : ∀ pin, session.stage = .idle pin → Pin.ofPem identity.peerCertificate = .ok pin
  connected : ∀ pin, session.stage = .connected pin →
    Pin.ofPem identity.peerCertificate = .ok pin ∧ Checked identity .vetted calls

/-- A session that is not connected stays sound under every call that does not send. -/
theorem Sound.cons {calls : List Call} {call : Call} (h : session.Sound identity calls)
    (hstage : session.isConnected = false)
    (hcall : ∀ offered progress, call ≠ .send offered progress) :
  session.Sound identity (call :: calls)
  := by
  constructor
  · apply h.identity_eq
  · apply h.guarded.cons
    intro offered progress heq
    apply absurd heq (hcall _ _)
  · apply h.idle
  · intro pin hpin
    simp [isConnected, hpin] at hstage

theorem perform_keeps_sound {α : Type} {op : Op σ α} {entry : α → Call}
    (hstage : session.isConnected = false)
    (hentry : ∀ a offered progress, entry a ≠ .send offered progress) :
  (perform op entry).Keeps fun _ calls => session.Sound identity calls
  := by
  apply Act.Ensures.perform
  intro _ _ h
  apply h.cons hstage (hentry _)

/-- A connected session stays sound under a call that keeps its connection vetted. -/
theorem Sound.transfer {calls : List Call} {call : Call} (h : session.Sound identity calls)
    (hstage : session.isConnected = true)
    (hcall : Checked identity .vetted calls → Checked identity .vetted (call :: calls)) :
  session.Sound identity (call :: calls)
  := by
  obtain ⟨pin, hpin⟩ : ∃ pin, session.stage = .connected pin := by
    unfold isConnected at hstage
    split at hstage
    · rename_i pin hpin
      use pin
    · cases hstage
  obtain ⟨hofPem, hvetted⟩ := h.connected pin hpin
  constructor
  · apply h.identity_eq
  · apply h.guarded.cons
    intro _ _ _
    apply hvetted
  · apply h.idle
  · intro pin hpin
    use (h.connected pin hpin).1
    apply hcall hvetted

/-- A sound session stays so without its connection. -/
theorem Sound.hungUp {calls : List Call} (h : session.Sound identity calls)
    (hstage : session.stage = .connected pin) :
  ({ session with stage := .idle pin } : Session).Sound identity calls
  := by
  constructor
  · apply h.identity_eq
  · apply h.guarded
  · rintro _ ⟨rfl⟩
    apply (h.connected pin hstage).1
  · rintro _ ⟨⟩

/-! ### Connecting -/

/-- Closing the connection leaves a sound session that is not connected. -/
theorem disconnect_sound :
  Act.Ensures (fun _ calls => session.Sound identity calls) (session.disconnect t)
    (fun after _ calls => after.Sound identity calls ∧ after.isConnected = false)
  := by
  unfold disconnect
  split
  case h_1 hstage =>
    apply Act.Ensures.pure
    intro _ _ h
    use h
    simp [isConnected, hstage]
  case h_2 hstage =>
    have hconnected : session.isConnected = false := by simp [isConnected, hstage]
    apply Act.Ensures.bind (perform_keeps_sound hconnected (by simp))
    intro _
    apply Act.Ensures.pure
    intro _ _ h
    use h
  case h_3 pin hstage =>
    apply Act.Ensures.bind_perform fun _ _ calls =>
      ({ session with stage := .idle pin } : Session).Sound identity calls
    · intro _ calls h
      apply (h.hungUp hstage).cons rfl (by simp)
    · intro _
      apply Act.Ensures.bind_report
      apply Act.Ensures.pure
      intro _ _ h
      use h
      rfl

/-- Configuring reads the pin of the identity and establishes no connection. -/
theorem configure_sound (hstage : session.isConnected = false) :
  Act.Ensures (fun _ calls => session.Sound identity calls) (session.configure t)
    (fun r _ calls => r.1.Sound identity calls ∧ r.1.isConnected = false
      ∧ ∀ pin, r.2 = .ok pin → Pin.ofPem identity.peerCertificate = .ok pin)
  := by
  unfold configure
  split
  case h_1 pin hidle =>
    apply Act.Ensures.pure
    intro _ _ h
    use h, hstage
    rintro _ ⟨rfl⟩
    apply h.idle _ hidle
  case h_2 pin hconnected =>
    simp [isConnected, hconnected] at hstage
  case h_3 hunconfigured =>
    split
    case h_1 fault _ =>
      apply Act.Ensures.pure
      intro _ _ h
      use h, hstage
      rintro _ ⟨⟩
    case h_2 pin hpin =>
      dsimp only
      apply Act.Ensures.bind (perform_keeps_sound hstage (by simp))
      intro outcome
      split
      case h_1 fault =>
        apply Act.Ensures.bind_report
        apply Act.Ensures.bind (perform_keeps_sound hstage (by simp))
        intro _
        apply Act.Ensures.pure
        intro _ _ h
        use h, hstage
        rintro _ ⟨⟩
      case h_2 =>
        apply Act.Ensures.bind_report
        apply Act.Ensures.pure
        intro _ calls h
        rw [h.identity_eq] at hpin
        refine ⟨⟨h.identity_eq, h.guarded, ?_, ?_⟩, rfl, ?_⟩
        · rintro _ ⟨rfl⟩
          apply hpin
        · rintro _ ⟨⟩
        · rintro _ ⟨rfl⟩
          apply hpin

/-- Making sure of the peer on an open connection leaves it vetted, or fails. -/
theorem establish_vetted (hstage : session.isConnected = false)
    (hpin : Pin.ofPem identity.peerCertificate = .ok pin) :
  Act.Ensures
    (fun _ calls => session.Sound identity calls ∧ Checked identity .dialled calls)
    (session.establish t pin)
    (fun outcome _ calls => session.Sound identity calls
      ∧ (outcome = .ok () → Checked identity .vetted calls))
  := by
  unfold establish
  apply Act.Ensures.bind (R := fun outcome _ calls => session.Sound identity calls
    ∧ (outcome = .ok () → Checked identity .shaken calls))
  · -- a handshake that asks for another round leaves the connection where it was
    apply Act.Ensures.retry
    · apply Act.Ensures.perform
      intro site calls h
      obtain ⟨hsound, hdialled⟩ := h
      have hnext : session.Sound identity (.handshake (t.handshake site).1 :: calls) :=
        hsound.cons hstage (by simp)
      revert hnext
      cases (t.handshake site).1 with
      | ready _ => exact fun hnext => ⟨hnext, fun _ => .shake hdialled⟩
      | retry spent => exact fun hnext => ⟨hnext, .tryAgain spent hdialled⟩
      | failed _ => exact fun hnext _ => ⟨hnext, by simp⟩
    · intro _ _ _ h
      obtain ⟨hsound, -⟩ := h
      use hsound
      simp
  intro outcome
  split
  · apply Act.Ensures.pure
    intro _ _ h
    obtain ⟨hsound, -⟩ := h
    use hsound
    simp
  apply Act.Ensures.bind_perform fun outcome _ calls => session.Sound identity calls
    ∧ (outcome = .ok () → Checked identity .chained calls)
  · intro _ _ h
    obtain ⟨hsound, hshaken⟩ := h
    use hsound.cons hstage (by simp)
    intro hok
    rw [hok]
    apply Checked.chain (hshaken rfl)
  intro outcome
  split
  · apply Act.Ensures.pure
    intro _ _ h
    obtain ⟨hsound, -⟩ := h
    use hsound
    simp
  apply Act.Ensures.bind_perform fun presented _ calls => session.Sound identity calls
    ∧ ∀ certificate, presented = some certificate →
      Pin.keyOfCertificate certificate = .ok pin.key → Checked identity .vetted calls
  · intro _ _ h
    obtain ⟨hsound, hchained⟩ := h
    use hsound.cons hstage (by simp)
    intro certificate hpresented hkey
    rw [hpresented]
    apply Checked.key hpin hkey (hchained rfl)
  intro presented
  split
  · apply Act.Ensures.pure
    intro _ _ h
    obtain ⟨hsound, -⟩ := h
    use hsound
    simp
  case h_2 certificate =>
    apply Act.Ensures.bind_reportAll
    apply Act.Ensures.pure
    intro _ _ h
    obtain ⟨hsound, hvetted⟩ := h
    use hsound
    intro hverify
    apply hvetted _ rfl
    apply Pin.verify_eq_ok_iff.mp hverify

/-- A session that takes a vetted connection is sound with it. -/
theorem Sound.connect {calls : List Call} (h : session.Sound identity calls)
    (hpin : Pin.ofPem identity.peerCertificate = .ok pin)
    (hvetted : Checked identity .vetted calls) :
  ({ session with stage := .connected pin } : Session).Sound identity calls
  := by
  constructor
  · apply h.identity_eq
  · apply h.guarded
  · rintro _ ⟨⟩
  · rintro _ ⟨rfl⟩
    use hpin, hvetted

/-- Connecting keeps a session sound, whatever it was connected to before. -/
theorem connect_sound :
  Act.Ensures (fun _ calls => session.Sound identity calls) (session.connect t)
    (fun r _ calls => r.1.Sound identity calls)
  := by
  unfold Session.connect
  extract_lets jp
  have hjp : ∀ session : Session, session.isConnected = false →
      Act.Ensures (fun _ calls => session.Sound identity calls) (jp session)
        (fun r _ calls => r.1.Sound identity calls) := by
    intro session hstage
    apply Act.Ensures.bind (configure_sound hstage)
    rintro ⟨session, configured⟩
    split
    case h_1 heq =>
      obtain ⟨rfl, rfl⟩ := heq
      apply Act.Ensures.pure
      intro _ _ h
      obtain ⟨hsound, -⟩ := h
      apply hsound
    case h_2 pin heq =>
      obtain ⟨rfl, rfl⟩ := heq
      apply Act.Ensures.of_forall
      intro _ _ h
      obtain ⟨hsound, hstage, hpin⟩ := h
      specialize hpin pin rfl
      dsimp only
      apply Act.Ensures.bind_perform fun outcome _ calls => session.Sound identity calls
        ∧ (outcome = .ok () → Checked identity .dialled calls)
      · rintro _ _ ⟨-, rfl⟩
        use hsound.cons hstage (by simp)
        intro hok
        rw [hok, hsound.identity_eq]
        apply Checked.dial
      intro outcome
      split
      · apply Act.Ensures.bind_report
        apply Act.Ensures.bind
        · apply (perform_keeps_sound hstage (by simp)).imp_left
          intro _ _ h
          obtain ⟨hsound, -⟩ := h
          apply hsound
        intro _
        exact .pure fun _ _ h => h
      apply Act.Ensures.bind_report
      apply Act.Ensures.bind
      · apply (establish_vetted hstage hpin).imp_left
        intro _ _ h
        obtain ⟨hsound, hdialled⟩ := h
        use hsound, hdialled rfl
      intro outcome
      split
      · apply Act.Ensures.bind_report
        apply Act.Ensures.bind
        · apply (perform_keeps_sound hstage (by simp)).imp_left
          intro _ _ h
          obtain ⟨hsound, -⟩ := h
          apply hsound
        intro _
        exact .pure fun _ _ h => h
      · apply Act.Ensures.bind_report
        apply Act.Ensures.pure
        intro _ _ h
        obtain ⟨hsound, hvetted⟩ := h
        apply hsound.connect hpin (hvetted rfl)
  split
  case isTrue =>
    apply Act.Ensures.bind_report
    apply Act.Ensures.bind disconnect_sound
    intro session
    apply Act.Ensures.of_forall
    intro _ _ h
    obtain ⟨hsound, hstage⟩ := h
    apply (hjp session hstage).imp_left
    rintro _ _ ⟨-, rfl⟩
    apply hsound
  case isFalse hstage =>
    simp only [pure_bind]
    apply hjp session (by simpa using hstage)

/-! ### Sending and receiving -/

/-- Retrying on a connection keeps a connected session sound, if each round makes one call
that keeps the connection vetted. -/
theorem retry_sound {α : Type} {what : String} {op : Op σ (Progress α)}
    {entry : Progress α → Call} (hstage : session.isConnected = true)
    (hentry : ∀ progress calls, Checked identity .vetted calls →
      Checked identity .vetted (entry progress :: calls)) :
  Act.Ensures (fun _ calls => session.Sound identity calls)
    (retry session.timeout what (perform op entry))
    (fun _ _ calls => session.Sound identity calls)
  := by
  apply Act.Ensures.retry
  · apply Act.Ensures.perform
    intro site calls hsound
    have hnext := hsound.transfer hstage (hentry (op site).1 calls)
    revert hnext
    generalize entry (op site).1 = call
    intro hnext
    cases (op site).1 with
    | ready _ => apply hnext
    | retry _ => apply hnext
    | failed _ =>
        intro _
        apply hnext
  · intro _ _ _ h
    apply h

/-- Disconnecting keeps a session sound. -/
theorem disconnect_keeps_sound :
  Act.Ensures (fun _ calls => session.Sound identity calls) (session.disconnect t)
    (fun after _ calls => after.Sound identity calls)
  := by
  apply disconnect_sound.imp_right
  intro _ _ _ h
  obtain ⟨h, -⟩ := h
  apply h

/-- Sending over the established connection keeps a session sound. -/
theorem sendAll_sound (hstage : session.isConnected = true) (bytes : Bytes) :
  Act.Ensures (fun _ calls => session.Sound identity calls) (session.sendAll t bytes)
    (fun r _ calls => r.1.Sound identity calls)
  := by
  induction bytes using sendAll.induct with
  | case1 bytes hempty =>
      rw [sendAll, if_pos hempty]
      exact .pure fun _ _ h => h
  | case2 bytes hne ih =>
      rw [sendAll, if_neg hne]
      apply Act.Ensures.bind
      · apply retry_sound hstage
        intro _ _
        apply Checked.send
      intro sent
      split
      · apply Act.Ensures.bind_report
        apply Act.Ensures.map disconnect_keeps_sound
      · apply Act.Ensures.map disconnect_keeps_sound
      case h_3 n =>
        dsimp only
        split
        · apply Act.Ensures.bind_report
          apply ih
        · apply ih

/-- Asking keeps a session sound; a session without a connection sends nothing. -/
theorem ask_sound (request : Bytes) :
  Act.Ensures (fun _ calls => session.Sound identity calls) (session.ask t request)
    (fun r _ calls => r.1.Sound identity calls)
  := by
  unfold ask
  split
  case isTrue hstage => apply sendAll_sound hstage
  case isFalse =>
    exact .pure fun _ _ h => h

/-- Reading a chunk keeps a session sound. -/
theorem readChunk_sound (capacity index : Nat) :
  Act.Ensures (fun _ calls => session.Sound identity calls) (session.readChunk t capacity index)
    (fun r _ calls => r.1.Sound identity calls)
  := by
  unfold readChunk
  split
  case isTrue hstage =>
    apply Act.Ensures.bind
    · apply retry_sound hstage
      intro _ _
      apply Checked.receive
    intro received
    split
    · apply Act.Ensures.bind_report
      apply Act.Ensures.map disconnect_keeps_sound
    · apply Act.Ensures.bind_report
      apply Act.Ensures.map disconnect_keeps_sound
    · apply Act.Ensures.bind_report
      exact .pure fun _ _ h => h
  case isFalse =>
    exact .pure fun _ _ h => h

/-- Giving a response up keeps a session sound. -/
theorem finish_sound :
  Act.Ensures (fun _ calls => session.Sound identity calls) (session.finish t)
    (fun after _ calls => after.Sound identity calls)
  := by
  unfold finish
  split
  · apply disconnect_keeps_sound
  · exact .pure fun _ _ h => h

/-- Reading a response, as much of it as is accepted, keeps a session sound. -/
theorem readAll_sound {session : Session} (capacity : Nat) (accept : Nat → Bytes → Bool)
    (count index : Nat) :
  Act.Ensures (fun _ calls => session.Sound identity calls)
    (session.readAll t capacity accept count index)
    (fun r _ calls => r.1.Sound identity calls)
  := by
  induction count generalizing session index with
  | zero =>
      rw [readAll]
      exact .pure fun _ _ h => h
  | succ count ih =>
      rw [readAll]
      apply Act.Ensures.bind (readChunk_sound capacity index)
      rintro ⟨session, chunk⟩
      rcases chunk with fault | _ | chunk
      · exact .pure fun _ _ h => h
      · exact .pure fun _ _ h => h
      · dsimp only
        split
        · apply Act.Ensures.map (ih (index + 1))
        · exact .pure fun _ _ h => h

/-- A whole request keeps a session sound. -/
theorem request_sound (bytes : Bytes) (capacity : Nat) (accept : Nat → Bytes → Bool)
    (count : Nat) :
  Act.Ensures (fun _ calls => session.Sound identity calls)
    (session.request t bytes capacity accept count)
    (fun r _ calls => r.1.Sound identity calls)
  := by
  unfold request
  apply Act.Ensures.bind (ask_sound bytes)
  rintro ⟨session, outcome⟩
  rcases outcome with _ | _
  · exact .pure fun _ _ h => h
  · apply Act.Ensures.bind (readAll_sound capacity accept count 0)
    intro _
    apply Act.Ensures.bind finish_sound
    intro _
    exact .pure fun _ _ h => h

/-! ### The life of a session -/

/-- Every action keeps a session sound. -/
theorem act_sound (action : Action) :
  Act.Ensures (fun _ calls => session.Sound identity calls) (session.act t action)
    (fun after _ calls => after.Sound identity calls)
  := by
  cases action with
  | connect =>
      apply connect_sound.map
  | disconnect => apply disconnect_keeps_sound
  | ask bytes =>
      apply (ask_sound bytes).map
  | readChunk capacity index =>
      apply (readChunk_sound capacity index).map
  | finish => apply finish_sound
  | request bytes capacity accept count =>
      apply (request_sound bytes capacity accept count).map

/-- Actions in any order keep a session sound. -/
theorem acts_sound {session : Session} (actions : List Action) :
  Act.Ensures (fun _ calls => session.Sound identity calls) (session.acts t actions)
    (fun after _ calls => after.Sound identity calls)
  := by
  induction actions generalizing session with
  | nil =>
      exact .pure fun _ _ h => h
  | cons action actions ih =>
      apply (act_sound action).bind
      intro _
      apply ih

/-- A session that was only just started is sound: it has made no calls. -/
theorem Sound.start (timeout : Duration) :
  ({ identity, timeout } : Session).Sound identity []
  := by
  constructor
  · rfl
  · apply Guarded.nil
  · rintro _ ⟨⟩
  · rintro _ ⟨⟩

/-- Over the whole life of a session no byte is sent on a connection that has not been vetted
since it was opened, whatever the transport answers. -/
theorem live_guarded (t : Transport σ) (identity : Identity) (timeout : Duration)
    (actions : List Action) (site : Site σ) :
  Guarded identity (live t { identity, timeout } actions { toSite := site }).2.calls
  := by
  suffices h : Act.Ensures
      (fun _ calls => ({ identity, timeout } : Session).Sound identity calls)
      (live t { identity, timeout } actions)
      (fun _ _ calls => Guarded identity calls) by
    apply h.run
    apply Sound.start
  unfold live
  apply (acts_sound actions).bind
  intro session
  unfold close
  apply disconnect_sound.bind
  intro after
  apply Act.Ensures.perform
  intro _ _ h
  obtain ⟨hsound, hstage⟩ := h
  apply (hsound.cons hstage (by simp)).guarded

end Session

end FirmwareUpdate
