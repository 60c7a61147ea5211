import FirmwareUpdate.Proofs.Bench.Rig

/-!
# A rig that nothing disturbs

When nothing disturbs a rig, a download of an image that arrives in one read with its head
installs the image, and the next one can follow.
-/

namespace FirmwareUpdate.Act.Ensures

variable {σ α : Type} {P R : Assertion σ}

/-- An operation that is done at once is not tried again. -/
theorem retry_ready {timeout : Duration} {what : String} {act : Act σ (Progress α)} (a : α)
    (hact : Ensures P act fun progress state calls => progress = .ready a ∧ R state calls) :
  Ensures P (FirmwareUpdate.retry timeout what act)
    (fun outcome state calls => outcome = .ok a ∧ R state calls)
  := by
  unfold FirmwareUpdate.retry
  rw [FirmwareUpdate.retryFrom]
  apply hact.bind
  intro progress
  apply of_fact
  rintro rfl
  exact pure fun _ _ h => ⟨rfl, h⟩

end FirmwareUpdate.Act.Ensures

namespace FirmwareUpdate.Bench.Rig

variable {α : Type}

/-- Nothing disturbs the rig: the peer presents `certificate`, accepts `queue` and has `live`
open, every operation on the slots succeeds, and `boot` is selected. -/
structure Calm (certificate : Bytes) (queue : List Connection) (live : Option Connection)
    (boot : String) (rig : Rig) : Prop where
  disturbances_eq : rig.disturbances = []
  chain : rig.peer.isChainValid = true
  certificate_eq : rig.peer.certificate = certificate
  queue_eq : rig.peer.queue = queue
  live_eq : rig.peer.live.map (·.script) = live
  writes : rig.slots.writesLeft = none
  finishes : rig.slots.failsFinish = false
  labels : rig.slots.slots.map (·.1) = ["factory", "ota_0", "ota_1"]
  boot_eq : rig.slots.boot = boot

/-- What stays true of a record whatever is called next, other than a restart. -/
def Lasting (F : List Call → Prop) : Prop :=
  ∀ call calls, (∀ delay, call ≠ .restart delay) → F calls → F (call :: calls)

/-- A slot has been opened, besides `F`. -/
def Opened (slot : String) (F : List Call → Prop) (calls : List Call) : Prop :=
  F calls ∧ ∃ earlier, .openWriter slot (.ok ()) :: earlier <:+ calls

/-- Nothing that is called takes away that a slot has been opened. -/
theorem Lasting.opened {F : List Call → Prop} (hF : Lasting F) (slot : String) :
  Lasting (Opened slot F)
  := by
  intro call calls hcall h
  obtain ⟨hf, earlier, hearlier⟩ := h
  use hF call calls hcall hf, earlier
  apply hearlier.trans (List.suffix_cons call calls)

/-- The rig is calm, and the record has `F`. -/
def Going (certificate : Bytes) (queue : List Connection) (live : Option Connection)
    (boot : String) (F : List Call → Prop) : Assertion Rig :=
  fun rig calls => Calm certificate queue live boot rig ∧ F calls

variable {certificate : Bytes} {queue : List Connection} {live : Option Connection}
  {boot : String} {F : List Call → Prop}

theorem disturbance_calm {name : String} {site : Site Rig} (h : site.state.disturbances = []) :
  disturbance name site = (none, site)
  := by
  obtain ⟨⟨peer, slots, armed, disarms, restarts, disturbances, timeout⟩, notes⟩ := site
  obtain rfl : disturbances = [] := h
  rfl

/-- An undisturbed call does what it does by itself. -/
theorem failing_calm {name : String} {kind : String → Fault} {op : Op Rig (Except Fault α)}
    {site : Site Rig} (h : site.state.disturbances = []) :
  failing name kind op site = op site
  := by
  rw [failing, Op.bind_eq, disturbance_calm h]

theorem progressing_calm {name : String} {op : Option Disturbance → Op Rig (Progress α)}
    {site : Site Rig} (h : site.state.disturbances = []) :
  progressing name op site = op none site
  := by
  rw [progressing, Op.bind_eq, disturbance_calm h]

/-- A call of a calm rig with a known answer. -/
theorem going_perform {op : Op Rig α} {entry : α → Call} {answer : α}
    {queue' : List Connection} {live' : Option Connection} {boot' : String}
    (hF : Lasting F) (hentry : ∀ delay, entry answer ≠ .restart delay)
    (hop : ∀ site, Calm certificate queue live boot site.state →
      (op site).1 = answer ∧ Calm certificate queue' live' boot' (op site).2.state) :
  Act.Ensures (Going certificate queue live boot F) (perform op entry)
    (fun a state calls => a = answer ∧ Going certificate queue' live' boot' F state calls)
  := by
  apply Act.Ensures.perform
  intro site calls h
  obtain ⟨hcalm, hf⟩ := h
  obtain ⟨hanswer, hcalm⟩ := hop site hcalm
  rw [hanswer]
  exact ⟨rfl, hcalm, hF _ calls hentry hf⟩

/-- What the peer of a calm rig does at a call. -/
theorem Calm.onPeer {f : Peer → α × Peer} {site : Site Rig} {answer : α}
    {queue' : List Connection} {live' : Option Connection}
    (h : Calm certificate queue live boot site.state) (peer : Peer)
    (hf : f site.state.peer = (answer, peer))
    (hchain : peer.isChainValid = true) (hcertificate : peer.certificate = certificate)
    (hqueue : peer.queue = queue') (hlive : peer.live.map (·.script) = live') :
  (Rig.onPeer f site).1 = answer
    ∧ Calm certificate queue' live' boot (Rig.onPeer f site).2.state
  := by
  simp only [Rig.onPeer, Op.onState, hf]
  exact ⟨trivial, h.disturbances_eq, hchain, hcertificate, hqueue, hlive, h.writes, h.finishes,
    h.labels, h.boot_eq⟩

/-- What the slots of a calm rig do at a call. -/
theorem Calm.onSlots {f : MemorySlots → α × MemorySlots} {site : Site Rig} {answer : α}
    {boot' : String} (h : Calm certificate queue live boot site.state) (slots : MemorySlots)
    (hf : f site.state.slots = (answer, slots)) (hwrites : slots.writesLeft = none)
    (hfinishes : slots.failsFinish = false)
    (hlabels : slots.slots.map (·.1) = ["factory", "ota_0", "ota_1"])
    (hboot : slots.boot = boot') :
  (Rig.onSlots f site).1 = answer
    ∧ Calm certificate queue live boot' (Rig.onSlots f site).2.state
  := by
  simp only [Rig.onSlots, Op.onState, hf]
  exact ⟨trivial, h.disturbances_eq, h.chain, h.certificate_eq, h.queue_eq, h.live_eq, hwrites,
    hfinishes, hlabels, hboot⟩

section Transport

variable {script : Connection} {host : String} {port : UInt16}

theorem configure_going (hF : Lasting F) (identity : Identity) :
  Act.Ensures (Going certificate queue live boot F)
    (perform (transport.configure identity) .configure)
    (fun a state calls => a = .ok () ∧ Going certificate queue live boot F state calls)
  := by
  apply going_perform hF (by simp)
  intro site h
  rw [show transport.configure identity site = _ from failing_calm h.disturbances_eq]
  apply h.onPeer site.state.peer.configure.2 _ h.chain h.certificate_eq h.queue_eq h.live_eq
  rfl

theorem dial_going (hF : Lasting F) :
  Act.Ensures (Going certificate (script :: queue) live boot F)
    (perform (transport.dial host port) (.dial host port))
    (fun a state calls => a = .ok () ∧ Going certificate queue (some script) boot F state calls)
  := by
  apply going_perform hF (by simp)
  intro site h
  rw [show transport.dial host port site = _ from failing_calm h.disturbances_eq]
  apply h.onPeer { site.state.peer with
    opens := site.state.peer.opens + 1, queue, live := some { script } } _ h.chain
    h.certificate_eq rfl rfl
  rw [Peer.dial]
  simp only [h.queue_eq]

theorem handshake_going (hF : Lasting F) (hscript : script.handshakeRetries = 0) :
  Act.Ensures (Going certificate queue (some script) boot F)
    (perform transport.handshake .handshake)
    (fun a state calls => a = .ready () ∧ Going certificate queue (some script) boot F state calls)
  := by
  apply going_perform hF (by simp)
  intro site h
  obtain ⟨live, hlive, hlivescript⟩ := Option.map_eq_some_iff.mp h.live_eq
  rw [show transport.handshake site = _ from progressing_calm h.disturbances_eq]
  apply h.onPeer site.state.peer _ h.chain h.certificate_eq h.queue_eq h.live_eq
  rw [Peer.handshake]
  simp only [hlive, hlivescript, hscript]

theorem verifyChain_going (hF : Lasting F) :
  Act.Ensures (Going certificate queue live boot F)
    (perform transport.verifyChain .verifyChain)
    (fun a state calls => a = .ok () ∧ Going certificate queue live boot F state calls)
  := by
  apply going_perform hF (by simp)
  intro site h
  rw [show transport.verifyChain site = _ from failing_calm h.disturbances_eq]
  apply h.onPeer site.state.peer _ h.chain h.certificate_eq h.queue_eq h.live_eq
  rw [Peer.verifyChain, if_pos h.chain]

theorem peerCertificate_going (hF : Lasting F) :
  Act.Ensures (Going certificate queue live boot F)
    (perform transport.peerCertificate .peerCertificate)
    (fun a state calls => a = some certificate
      ∧ Going certificate queue live boot F state calls)
  := by
  apply going_perform hF (by simp)
  intro site h
  dsimp only [transport]
  rw [Op.bind_eq, disturbance_calm h.disturbances_eq]
  use congrArg some h.certificate_eq
  apply h

theorem send_going (hF : Lasting F) (hscript : script.writeLimit = none) (bytes : Bytes) :
  Act.Ensures (Going certificate queue (some script) boot F)
    (perform (transport.send bytes) (.send bytes))
    (fun a state calls => a = .ready bytes.length
      ∧ Going certificate queue (some script) boot F state calls)
  := by
  apply going_perform hF (by simp)
  intro site h
  obtain ⟨live, hlive, hlivescript⟩ := Option.map_eq_some_iff.mp h.live_eq
  rw [show transport.send bytes site = _ from progressing_calm h.disturbances_eq]
  apply h.onPeer { site.state.peer with
    live := some { live with sent := live.sent ++ bytes } } _ h.chain h.certificate_eq
    h.queue_eq (congrArg some hlivescript)
  rw [Peer.send]
  simp only [hlive, hlivescript, hscript, Option.getD_none, Nat.min_self, List.take_length]

theorem receive_going (hF : Lasting F) {bytes : Bytes} {reads : List ReadStep} {capacity : Nat}
    (hscript : script.reads = .data bytes :: reads) (hfits : bytes.length ≤ capacity) :
  Act.Ensures (Going certificate queue (some script) boot F)
    (perform (transport.receive capacity) (.receive capacity))
    (fun a state calls => a = .ready bytes
      ∧ Going certificate queue (some { script with reads }) boot F state calls)
  := by
  apply going_perform hF (by simp)
  intro site h
  obtain ⟨live, hlive, hlivescript⟩ := Option.map_eq_some_iff.mp h.live_eq
  rw [show transport.receive capacity site = _ from progressing_calm h.disturbances_eq]
  apply h.onPeer { site.state.peer with
    live := some { live with script := { script with reads } } } _ h.chain h.certificate_eq
    h.queue_eq rfl
  rw [Peer.receive]
  simp only [hlive, hlivescript, hscript, if_neg (Nat.not_lt.mpr hfits)]

theorem hangUp_going (hF : Lasting F) :
  Act.Ensures (Going certificate queue (some script) boot F)
    (perform transport.hangUp fun _ => .hangUp)
    (fun _ => Going certificate queue none boot F)
  := by
  suffices h : Act.Ensures (Going certificate queue (some script) boot F)
      (perform transport.hangUp fun _ => .hangUp)
      (fun a state calls => a = () ∧ Going certificate queue none boot F state calls) by
    apply h.imp_right
    intro _ _ _ h
    obtain ⟨-, h⟩ := h
    apply h
  apply going_perform hF (by simp)
  intro site h
  obtain ⟨live, hlive, -⟩ := Option.map_eq_some_iff.mp h.live_eq
  have hhangUp : site.state.peer.hangUp = { site.state.peer with
      live := none
      closes := site.state.peer.closes + 1
      unread := live.script.reads.length
      requests := site.state.peer.hangUp.requests } := by
    rw [Peer.hangUp]
    simp only [hlive]
  apply h.onPeer site.state.peer.hangUp rfl
  all_goals rw [hhangUp]
  · apply h.chain
  · apply h.certificate_eq
  · apply h.queue_eq
  · rfl

end Transport

section Slots

variable {slot : String}

/-- Changing a slot changes no label. -/
theorem labels_update (table : MemorySlots) (label : String) (f : MemorySlot → MemorySlot) :
  (table.update label f).slots.map (·.1) = table.slots.map (·.1)
  := by
  simp only [MemorySlots.update, List.map_map]
  rfl

theorem bootLabel_going (hF : Lasting F) :
  Act.Ensures (Going certificate queue live boot F) (perform slotTable.bootLabel .bootLabel)
    (fun a state calls => a = .ok boot ∧ Going certificate queue live boot F state calls)
  := by
  apply going_perform hF (by simp)
  intro site h
  rw [show slotTable.bootLabel site = _ from failing_calm h.disturbances_eq]
  apply h.onSlots site.state.slots _ h.writes h.finishes h.labels h.boot_eq
  rw [h.boot_eq]

theorem openWriter_going (hF : Lasting F) (hslot : slot ∈ ["factory", "ota_0", "ota_1"]) :
  Act.Ensures (Going certificate queue live boot F)
    (perform (slotTable.openWriter slot) fun writer => .openWriter slot (Functor.discard writer))
    (fun a state calls => a = .ok slot
      ∧ Going certificate queue live boot (Opened slot F) state calls)
  := by
  apply Act.Ensures.perform
  intro site calls hscene
  obtain ⟨h, hf⟩ := hscene
  have hopen : MemorySlots.openWriter site.state.slots slot
      = (.ok slot, site.state.slots.update slot fun _ => {}) := by
    rw [MemorySlots.openWriter, if_pos]
    rw [← h.labels] at hslot
    obtain ⟨entry, hentry, hlabel⟩ := List.mem_map.mp hslot
    apply List.any_eq_true.mpr
    use entry, hentry
    simpa using hlabel
  obtain ⟨hanswer, hcalm⟩ := h.onSlots (f := (·.openWriter slot)) _ hopen h.writes h.finishes
    ((labels_update _ _ _).trans h.labels) h.boot_eq
  rw [show slotTable.openWriter slot site = _ from failing_calm h.disturbances_eq, hanswer]
  exact ⟨rfl, hcalm, hF _ calls (by simp) hf, calls, List.suffix_refl _⟩

theorem write_going (hF : Lasting F) (label : String) (data : Bytes) :
  Act.Ensures (Going certificate queue live boot F)
    (perform (slotTable.write slot data) (.write label data))
    (fun a state calls => a = .ok () ∧ Going certificate queue live boot F state calls)
  := by
  apply going_perform hF (by simp)
  intro site h
  rw [show slotTable.write slot data site = _ from failing_calm h.disturbances_eq]
  apply h.onSlots (site.state.slots.append slot data) _ h.writes h.finishes
    ((labels_update _ _ _).trans h.labels) h.boot_eq
  rw [MemorySlots.write]
  simp only [h.writes]

theorem finish_going (hF : Lasting F) (label : String) :
  Act.Ensures (Going certificate queue live boot F)
    (perform (slotTable.finish slot) (.finish label))
    (fun a state calls => a = .ok () ∧ Going certificate queue live boot F state calls)
  := by
  apply going_perform hF (by simp)
  intro site h
  rw [show slotTable.finish slot site = _ from failing_calm h.disturbances_eq]
  apply h.onSlots site.state.slots _ h.writes h.finishes h.labels h.boot_eq
  rw [MemorySlots.finish, if_neg (by simp [h.finishes])]

theorem select_going (hF : Lasting F) (slot : String) :
  Act.Ensures (Going certificate queue live boot F)
    (perform (slotTable.select slot) (.select slot))
    (fun a state calls => a = .ok () ∧ Going certificate queue live slot F state calls)
  := by
  apply going_perform hF (by simp)
  intro site h
  rw [show slotTable.select slot site = _ from failing_calm h.disturbances_eq]
  apply h.onSlots (site.state.slots.select slot) rfl h.writes h.finishes h.labels rfl

end Slots

end FirmwareUpdate.Bench.Rig
