import FirmwareUpdate.Proofs.Bench.Calm
import FirmwareUpdate.Proofs.Resemblance

/-!
# Rigs that cannot be told apart

A rig counts how often its transport has been configured, and nothing that it does hangs on that
count. As long as nothing disturbs them, two rigs with different counts cannot be told apart.
-/

namespace FirmwareUpdate.Bench

/-- What a peer does hangs on everything but the number of configurations, which it keeps. -/
def Peer.Uncounting {α : Type} (f : Peer → α × Peer) : Prop :=
  ∀ (peer : Peer) (configurations : Nat),
    f { peer with configurations } = ((f peer).1, { (f peer).2 with configurations })

namespace Rig

variable {α : Type}

/-- Two rigs that nothing disturbs and that only the number of configurations tells apart. -/
def Likened (rig other : Rig) : Prop :=
  rig.disturbances = []
    ∧ ∃ configurations, other = { rig with peer := { rig.peer with configurations } }

theorem likened_refl {rig : Rig} (h : rig.disturbances = []) :
  Likened rig rig
  := ⟨h, _, rfl⟩

/-- An undisturbed call respects what it does by itself. -/
theorem failing_respects {op : Op Rig (Except Fault α)} (h : op.Respects Likened) (name : String)
    (kind : String → Fault) :
  (failing name kind op).Respects Likened
  := by
  intro site site' hlike
  obtain ⟨hcalm, configurations, heq⟩ := id hlike
  have hcalm' : site'.state.disturbances = [] := by rw [heq, ← hcalm]
  rw [failing_calm hcalm, failing_calm hcalm']
  apply h site site' hlike

theorem progressing_respects {op : Option Disturbance → Op Rig (Progress α)}
    (h : (op none).Respects Likened) (name : String) :
  (progressing name op).Respects Likened
  := by
  intro site site' hlike
  obtain ⟨hcalm, configurations, heq⟩ := id hlike
  have hcalm' : site'.state.disturbances = [] := by rw [heq, ← hcalm]
  rw [progressing_calm hcalm, progressing_calm hcalm']
  apply h site site' hlike

theorem onPeer_respects {f : Peer → α × Peer} (hf : Peer.Uncounting f) :
  (onPeer f).Respects Likened
  := by
  rintro site ⟨state, notes⟩ ⟨hcalm, configurations, heq⟩
  obtain rfl : state = _ := heq
  have hpeer := hf site.state.peer configurations
  unfold onPeer Op.onState
  dsimp only at hpeer ⊢
  rw [hpeer]
  exact ⟨rfl, hcalm, configurations, rfl⟩

theorem onSlots_respects (f : MemorySlots → α × MemorySlots) :
  (onSlots f).Respects Likened
  := by
  rintro site ⟨state, notes⟩ ⟨hcalm, configurations, heq⟩
  obtain rfl : state = _ := heq
  exact ⟨rfl, hcalm, configurations, rfl⟩

theorem dial_uncounting :
  Peer.Uncounting Peer.dial
  := by
  intro peer configurations
  unfold Peer.dial
  dsimp only
  split <;> rfl

theorem handshake_uncounting :
  Peer.Uncounting Peer.handshake
  := by
  intro peer configurations
  unfold Peer.handshake
  dsimp only
  split
  · rfl
  · split <;> rfl

theorem send_uncounting (data : Bytes) :
  Peer.Uncounting (·.send data)
  := by
  intro peer configurations
  unfold Peer.send
  dsimp only
  split <;> rfl

theorem receive_uncounting (capacity : Nat) :
  Peer.Uncounting (·.receive capacity)
  := by
  intro peer configurations
  unfold Peer.receive
  dsimp only
  split
  · rfl
  · split
    · rfl
    · rfl
    · rfl
    · split <;> rfl

theorem hangUp_uncounting :
  Peer.Uncounting fun peer => ((), peer.hangUp)
  := by
  intro peer configurations
  unfold Peer.hangUp
  dsimp only
  split <;> rfl

/-- No operation of a rig tells how often its transport has been configured. -/
theorem platform_respects :
  platform.Respects Likened
  where
  symm := by
    rintro rig _ ⟨hcalm, configurations, rfl⟩
    exact ⟨hcalm, rig.peer.configurations, rfl⟩
  trans := by
    rintro rig _ _ ⟨hcalm, _, rfl⟩ ⟨-, configurations, rfl⟩
    exact ⟨hcalm, configurations, rfl⟩
  configure identity site hlike := by
    obtain ⟨hcalm, -⟩ := hlike
    change (failing "initialize" .transport (onPeer Peer.configure) site).1 = _
      ∧ Likened _ (failing "initialize" .transport (onPeer Peer.configure) site).2.state
    rw [failing_calm hcalm]
    exact ⟨rfl, hcalm, _, rfl⟩
  dial _ _ := failing_respects (onPeer_respects dial_uncounting) _ _
  handshake := progressing_respects (onPeer_respects handshake_uncounting) _
  verifyChain := failing_respects (onPeer_respects fun _ _ => rfl) _ _
  peerCertificate := by
    rintro site ⟨state, notes⟩ ⟨hcalm, configurations, heq⟩
    obtain rfl : state = _ := heq
    dsimp only [platform, transport]
    rw [Op.bind_eq, Op.bind_eq, disturbance_calm hcalm, disturbance_calm (by exact hcalm)]
    exact ⟨rfl, hcalm, configurations, rfl⟩
  send data := progressing_respects (onPeer_respects (send_uncounting data)) _
  receive capacity := progressing_respects (onPeer_respects (receive_uncounting capacity)) _
  hangUp := onPeer_respects hangUp_uncounting
  reset _ _ hlike := ⟨rfl, hlike⟩
  bootLabel := failing_respects (onSlots_respects _) _ _
  openWriter _ := failing_respects (onSlots_respects _) _ _
  write _ _ := failing_respects (onSlots_respects _) _ _
  finish _ := failing_respects (onSlots_respects _) _ _
  discard _ := onSlots_respects _
  select _ := failing_respects (onSlots_respects _) _ _
  arm period := by
    apply failing_respects
    rintro site ⟨state, notes⟩ ⟨hcalm, configurations, heq⟩
    obtain rfl : state = _ := heq
    exact ⟨rfl, hcalm, configurations, rfl⟩
  disarm := by
    rintro site ⟨state, notes⟩ ⟨hcalm, configurations, heq⟩
    obtain rfl : state = _ := heq
    exact ⟨rfl, hcalm, configurations, rfl⟩
  restart _ := by
    rintro site ⟨state, notes⟩ ⟨hcalm, configurations, heq⟩
    obtain rfl : state = _ := heq
    exact ⟨rfl, hcalm, configurations, rfl⟩
  observe observe hobserve _ := by
    obtain rfl : _ = observe := Option.some.inj hobserve
    exact fun _ _ hlike => ⟨rfl, hlike⟩

end Rig

end FirmwareUpdate.Bench
