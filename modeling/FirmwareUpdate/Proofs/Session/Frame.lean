import FirmwareUpdate.Proofs.Composed
import FirmwareUpdate.Session.Basic

/-!
# What sessions leave alone

A session reaches its platform through the operations of the transport only. An assertion that
each of them keeps, however it answers, is therefore kept by everything that is done with a
session.
-/

namespace FirmwareUpdate

variable {σ : Type} {I : Assertion σ} {B : Basis σ}

/-- The operations of a transport that read nothing. -/
inductive Transport.Unread (t : Transport σ) : Basis σ
  | configure (identity : Identity) : Unread t _ (t.configure identity) .configure
  | dial (host : String) (port : UInt16) : Unread t _ (t.dial host port) (.dial host port)
  | handshake : Unread t _ t.handshake .handshake
  | verifyChain : Unread t _ t.verifyChain .verifyChain
  | peerCertificate : Unread t _ t.peerCertificate .peerCertificate
  | send (bytes : Bytes) : Unread t _ (t.send bytes) (.send bytes)
  | hangUp : Unread t _ t.hangUp fun _ => .hangUp
  | reset : Unread t _ t.reset fun _ => .reset

/-- The operations of a transport. -/
inductive Transport.Performs (t : Transport σ) : Basis σ
  | unread {α : Type} {op : Op σ α} {entry : α → Call} :
      t.Unread α op entry → Performs t α op entry
  | receive (capacity : Nat) : Performs t _ (t.receive capacity) (.receive capacity)

theorem Transport.unread_le {t : Transport σ} (h : t.Performs ≤ B) :
  t.Unread ≤ B
  := fun _ _ _ hop => h _ _ _ (.unread hop)

/-- The operations of a transport once a request has been sent. -/
inductive Transport.Hears (t : Transport σ) : Basis σ
  | receive (capacity : Nat) : Hears t _ (t.receive capacity) (.receive capacity)
  | hangUp : Hears t _ t.hangUp fun _ => .hangUp

theorem Transport.hears_le {t : Transport σ} (h : t.Performs ≤ B) :
  t.Hears ≤ B
  := by
  intro _ _ _ hop
  cases hop with
  | receive capacity => exact h _ _ _ (.receive capacity)
  | hangUp => exact h _ _ _ (.unread .hangUp)

/-- The operations of a transport that read nothing keep `I`, with their entries in the record of
calls. -/
structure Transport.KeepsUnread (t : Transport σ) (I : Assertion σ) : Prop where
  configure : ∀ identity, (perform (t.configure identity) .configure).Keeps I
  dial : ∀ host port, (perform (t.dial host port) (.dial host port)).Keeps I
  handshake : (perform t.handshake .handshake).Keeps I
  verifyChain : (perform t.verifyChain .verifyChain).Keeps I
  peerCertificate : (perform t.peerCertificate .peerCertificate).Keeps I
  send : ∀ bytes, (perform (t.send bytes) (.send bytes)).Keeps I
  hangUp : (perform t.hangUp fun _ => .hangUp).Keeps I
  reset : (perform t.reset fun _ => .reset).Keeps I

/-- Every operation of a transport keeps `I`. -/
structure Transport.Keeps (t : Transport σ) (I : Assertion σ) : Prop
    extends t.KeepsUnread I where
  receive : ∀ capacity, (perform (t.receive capacity) (.receive capacity)).Keeps I

theorem Transport.KeepsUnread.unread_le {t : Transport σ} (ht : t.KeepsUnread I) :
  t.Unread ≤ I.Keepers
  := by
  intro α op entry hop
  cases hop with
  | configure identity => apply ht.configure
  | dial host port => apply ht.dial
  | handshake => apply ht.handshake
  | verifyChain => apply ht.verifyChain
  | peerCertificate => apply ht.peerCertificate
  | send bytes => apply ht.send
  | hangUp => apply ht.hangUp
  | reset => apply ht.reset

theorem Transport.Keeps.performs_le {t : Transport σ} (ht : t.Keeps I) :
  t.Performs ≤ I.Keepers
  := by
  intro α op entry hop
  cases hop with
  | unread hop => apply ht.unread_le _ _ _ hop
  | receive capacity => apply ht.receive

theorem Transport.Keeps.of_le {t : Transport σ} (h : t.Performs ≤ I.Keepers) :
  t.Keeps I
  where
  configure identity := h _ _ _ (.unread (.configure identity))
  dial host port := h _ _ _ (.unread (.dial host port))
  handshake := h _ _ _ (.unread .handshake)
  verifyChain := h _ _ _ (.unread .verifyChain)
  peerCertificate := h _ _ _ (.unread .peerCertificate)
  send bytes := h _ _ _ (.unread (.send bytes))
  hangUp := h _ _ _ (.unread .hangUp)
  reset := h _ _ _ (.unread .reset)
  receive capacity := h _ _ _ (.receive capacity)

namespace Session

variable {t : Transport σ}

theorem configure_composed (hconfigure : ∀ identity, B Outcome (t.configure identity) .configure)
    (hreset : B Unit t.reset fun _ => .reset) (session : Session) :
  (session.configure t).Composed B
  := by
  unfold configure
  split
  · apply Act.Composed.pure
  · apply Act.Composed.pure
  · split
    · apply Act.Composed.pure
    · apply (Act.Composed.perform (hconfigure _)).bind
      intro outcome
      split
      · apply Act.Composed.bind_report
        apply (Act.Composed.perform hreset).bind
        intro _
        apply Act.Composed.pure
      · apply Act.Composed.bind_report
        apply Act.Composed.pure

theorem establish_composed (hB : t.Unread ≤ B) (session : Session) (pin : Pin) :
  (session.establish t pin).Composed B
  := by
  unfold establish
  apply (Act.Composed.perform (hB _ _ _ .handshake)).retry.bind
  intro outcome
  split
  · apply Act.Composed.pure
  apply (Act.Composed.perform (hB _ _ _ .verifyChain)).bind
  intro outcome
  split
  · apply Act.Composed.pure
  apply (Act.Composed.perform (hB _ _ _ .peerCertificate)).bind
  intro presented
  split
  · apply Act.Composed.pure
  apply Act.Composed.bind_reportAll
  apply Act.Composed.pure

theorem disconnect_composed (hB : B Unit t.hangUp fun _ => .hangUp) (session : Session) :
  (session.disconnect t).Composed B
  := by
  unfold disconnect
  split
  · apply Act.Composed.pure
  · apply (Act.Composed.perform hB).bind
    intro _
    apply Act.Composed.pure
  · apply (Act.Composed.perform hB).bind
    intro _
    apply Act.Composed.bind_report
    apply Act.Composed.pure

theorem connect_composed (hB : t.Unread ≤ B) (session : Session) :
  (session.connect t).Composed B
  := by
  unfold Session.connect
  extract_lets jp
  have hjp : ∀ session, (jp session).Composed B := by
    intro session
    apply (configure_composed (fun _ => hB _ _ _ (.configure _)) (hB _ _ _ .reset) session).bind
    intro configured
    split
    · apply Act.Composed.pure
    apply (Act.Composed.perform (hB _ _ _ (.dial _ _))).bind
    intro dialled
    split
    · apply Act.Composed.bind_report
      apply (Act.Composed.perform (hB _ _ _ .hangUp)).bind
      intro _
      apply Act.Composed.pure
    apply Act.Composed.bind_report
    apply (establish_composed hB _ _).bind
    intro established
    split
    · apply Act.Composed.bind_report
      apply (Act.Composed.perform (hB _ _ _ .hangUp)).bind
      intro _
      apply Act.Composed.pure
    · apply Act.Composed.bind_report
      apply Act.Composed.pure
  split
  · apply Act.Composed.bind_report
    apply (disconnect_composed (hB _ _ _ .hangUp) session).bind hjp
  · simp only [pure_bind]
    apply hjp

theorem sendAll_composed (hB : t.Unread ≤ B) (session : Session) (bytes : Bytes) :
  (session.sendAll t bytes).Composed B
  := by
  induction bytes using sendAll.induct with
  | case1 bytes hempty =>
      rw [sendAll, if_pos hempty]
      apply Act.Composed.pure
  | case2 bytes hne ih =>
      rw [sendAll, if_neg hne]
      apply (Act.Composed.perform (hB _ _ _ (.send bytes))).retry.bind
      intro sent
      split
      · apply Act.Composed.bind_report
        apply (disconnect_composed (hB _ _ _ .hangUp) session).map
      · apply (disconnect_composed (hB _ _ _ .hangUp) session).map
      case h_3 n =>
        dsimp only
        split
        · apply Act.Composed.bind_report
          apply ih
        · apply ih

theorem ask_composed (hB : t.Unread ≤ B) (session : Session) (request : Bytes) :
  (session.ask t request).Composed B
  := by
  unfold ask
  split
  · apply sendAll_composed hB
  · apply Act.Composed.pure

theorem readChunk_composed (hB : t.Hears ≤ B) (session : Session) (capacity index : Nat) :
  (session.readChunk t capacity index).Composed B
  := by
  unfold readChunk
  split
  case isTrue =>
    apply (Act.Composed.perform (hB _ _ _ (.receive capacity))).retry.bind
    intro received
    split
    · apply Act.Composed.bind_report
      apply (disconnect_composed (hB _ _ _ .hangUp) session).map
    · apply Act.Composed.bind_report
      apply (disconnect_composed (hB _ _ _ .hangUp) session).map
    · apply Act.Composed.bind_report
      apply Act.Composed.pure
  case isFalse => apply Act.Composed.pure

theorem finish_composed (hB : B Unit t.hangUp fun _ => .hangUp) (session : Session) :
  (session.finish t).Composed B
  := by
  unfold finish
  split
  · apply disconnect_composed hB
  · apply Act.Composed.pure

theorem close_composed (hB : t.Unread ≤ B) (session : Session) :
  (session.close t).Composed B
  := by
  unfold close
  apply (disconnect_composed (hB _ _ _ .hangUp) session).bind
  intro _
  apply Act.Composed.perform (hB _ _ _ .reset)

end Session

end FirmwareUpdate
