import FirmwareUpdate.Proofs.Bench.Calm
import FirmwareUpdate.Proofs.Http.Asking
import FirmwareUpdate.Proofs.Http.Reception
import FirmwareUpdate.Proofs.Worker.Run

/-!
# Downloads on a calm rig

A download of an image that arrives in one read, together with its head, is followed on a rig
that nothing disturbs: the image is installed in the slot after the selected one. The sample
worker can be run on sample rigs in this way, one download after the other.
-/

namespace FirmwareUpdate.Bench.Rig

variable {certificate : Bytes} {queue : List Connection} {live : Option Connection}
  {script : Connection} {boot : String} {F : List Call → Prop} {pin : Pin}

/-- A session that has not connected, and will find its pinned key in the certificate. -/
structure Ready (certificate : Bytes) (pin : Pin) (session : Session) : Prop where
  stage : session.stage = .unconfigured ∨ session.stage = .idle pin
  pin_eq : Pin.ofPem session.identity.peerCertificate = .ok pin
  verified : pin.verify certificate = .ok ()

theorem Ready.isConnected {session : Session} (h : Ready certificate pin session) :
  session.isConnected = false
  := by
  rcases h.stage with hstage | hstage
  · simp [Session.isConnected, hstage]
  · simp [Session.isConnected, hstage]

theorem configured_going (hF : Lasting F) {session : Session}
    (h : Ready certificate pin session) :
  Act.Ensures (Going certificate queue live boot F) (session.configure transport)
    (fun r state calls => r = ({ session with stage := .idle pin }, .ok pin)
      ∧ Going certificate queue live boot F state calls)
  := by
  obtain ⟨identity, timeout, stage⟩ := session
  obtain ⟨hstage, hpin, -⟩ := h
  unfold Session.configure
  rcases hstage with rfl | rfl
  · dsimp only at hpin ⊢
    rw [hpin]
    apply (configure_going hF identity).bind
    intro outcome
    apply Act.Ensures.of_fact
    rintro rfl
    apply Act.Ensures.bind_report
    exact .pure fun _ _ h => ⟨rfl, h⟩
  · exact .pure fun _ _ h => ⟨rfl, h⟩

theorem established_going (hF : Lasting F) (hscript : script.handshakeRetries = 0)
    {session : Session} (hverified : pin.verify certificate = .ok ()) :
  Act.Ensures (Going certificate queue (some script) boot F) (session.establish transport pin)
    (fun outcome state calls => outcome = .ok ()
      ∧ Going certificate queue (some script) boot F state calls)
  := by
  unfold Session.establish
  apply (Act.Ensures.retry_ready () (handshake_going hF hscript)).bind
  intro outcome
  apply Act.Ensures.of_fact
  rintro rfl
  apply (verifyChain_going hF).bind
  intro outcome
  apply Act.Ensures.of_fact
  rintro rfl
  apply (peerCertificate_going hF).bind
  intro presented
  apply Act.Ensures.of_fact
  rintro rfl
  apply Act.Ensures.bind_reportAll
  exact .pure fun _ _ h => ⟨hverified, h⟩

/-- A session connects. -/
theorem connected_going (hF : Lasting F) (hscript : script.handshakeRetries = 0)
    {session : Session} (h : Ready certificate pin session) :
  Act.Ensures (Going certificate (script :: queue) live boot F) (session.connect transport)
    (fun r state calls => r = ({ session with stage := .connected pin }, .ok ())
      ∧ Going certificate queue (some script) boot F state calls)
  := by
  unfold Session.connect
  extract_lets jp
  rw [if_neg (by simp [h.isConnected])]
  simp only [pure_bind, jp]
  apply (configured_going hF h).bind
  intro configured
  apply Act.Ensures.of_fact
  rintro rfl
  apply (dial_going hF).bind
  intro dialled
  apply Act.Ensures.of_fact
  rintro rfl
  apply Act.Ensures.bind_report
  apply (established_going hF hscript h.verified).bind
  intro established
  apply Act.Ensures.of_fact
  rintro rfl
  apply Act.Ensures.bind_report
  exact .pure fun _ _ h => ⟨rfl, h⟩

/-- A request is sent at once. -/
theorem asked_going (hF : Lasting F) (hscript : script.writeLimit = none) {session : Session}
    (hstage : session.isConnected = true) {bytes : Bytes} (hne : bytes ≠ []) :
  Act.Ensures (Going certificate queue (some script) boot F) (session.ask transport bytes)
    (fun r state calls => r = (session, .ok ())
      ∧ Going certificate queue (some script) boot F state calls)
  := by
  unfold Session.ask
  rw [if_pos hstage, Session.sendAll, if_neg (by simpa using hne)]
  apply (Act.Ensures.retry_ready _ (send_going hF hscript bytes)).bind
  intro sent
  apply Act.Ensures.of_fact
  rintro rfl
  obtain ⟨b, rest, rfl⟩ := List.exists_cons_of_ne_nil hne
  have hrest : (b :: rest).drop (rest.length + 1) = [] := by simp
  simp only [List.length_cons, hrest]
  rw [if_neg (by simp), Session.sendAll, if_pos List.isEmpty_nil]
  exact .pure fun _ _ h => ⟨rfl, h⟩

/-- A stream is opened. -/
theorem opened_going (hF : Lasting F) (hretries : script.handshakeRetries = 0)
    (hlimit : script.writeLimit = none) {client : Client}
    (h : Ready certificate pin client.session) (request : Request) (hne : request.bytes ≠ [])
    (capacity : Nat) :
  Act.Ensures (Going certificate (script :: queue) live boot F)
    (client.openStream transport request capacity)
    (fun r state calls =>
      (∃ session : Session, session = { client.session with stage := .connected pin }
        ∧ r = ({ client.advance with session },
            .ok { session, request, id := client.nextId,
                  reception := .start .streamed capacity }))
      ∧ Going certificate queue (some script) boot F state calls)
  := by
  unfold Client.openStream
  apply Act.Ensures.bind_report
  unfold Client.begin
  apply Act.Ensures.bind
  · apply Act.Ensures.bind
    · apply connected_going hF hretries h
    intro connected
    apply Act.Ensures.of_fact
    rintro rfl
    apply asked_going hF hlimit rfl hne
  intro asked
  apply Act.Ensures.of_fact
  rintro rfl
  exact .pure fun _ _ h => ⟨⟨_, rfl, rfl⟩, h⟩

section Streaming

variable {raw : Bytes} {after : Reception} {size : Nat} {stream : Client.Stream}

/-- A response that arrives in one read is handed out in one fragment. -/
theorem fragment_going (hF : Lasting F) {reads : List ReadStep}
    (hscript : script.reads = .data raw :: reads) (hne : raw ≠ [])
    (hfits : raw.length ≤ Client.chunkCapacity) (hstage : stream.session.isConnected = true)
    (hfresh : stream.isDelivered = false)
    (hfeed : stream.reception.feed stream.index raw = (after, .ok (.body size))) :
  Act.Ensures (Going certificate queue (some script) boot F) (stream.next transport)
    (fun r state calls =>
      r = ({ stream.advance stream.session after with isDelivered := true },
        .ok (some (.data after.front)))
      ∧ Going certificate queue (some { script with reads }) boot F state calls)
  := by
  obtain ⟨b, rest, rfl⟩ := List.exists_cons_of_ne_nil hne
  unfold Client.Stream.next
  rw [if_neg (by simp [hfresh]), Client.Stream.receive]
  unfold Session.readChunk
  rw [if_pos hstage]
  apply Act.Ensures.bind
  · apply (Act.Ensures.retry_ready _ (receive_going hF hscript hfits)).bind
    intro received
    apply Act.Ensures.of_fact
    rintro rfl
    apply Act.Ensures.bind_report
    exact .pure (Q := fun r state calls =>
      r = (stream.session, .ok (some ⟨b :: rest, List.cons_ne_nil b rest⟩))
        ∧ Going certificate queue (some { script with reads }) boot F state calls)
      fun _ _ h => ⟨rfl, h⟩
  intro received
  apply Act.Ensures.of_fact
  rintro rfl
  dsimp only
  apply Act.Ensures.bind_reportAll
  split
  case h_1 heq => rw [hfeed] at heq; cases heq
  case h_2 heq => rw [hfeed] at heq; cases heq
  case h_3 heq =>
    rw [hfeed] at heq
    obtain ⟨rfl⟩ := heq
    exact .pure fun _ _ h => ⟨rfl, h⟩

/-- When all of a body has been handed out, the connection is closed. -/
theorem finished_going (hF : Lasting F) (hstage : stream.session.stage = .connected pin)
    (hdelivered : stream.isDelivered = true) (hcomplete : stream.reception.bodyComplete = true) :
  Act.Ensures (Going certificate queue (some script) boot F) (stream.next transport)
    (fun r state calls =>
      r = ({ stream with isDelivered := false,
                         session := { stream.session with stage := .idle pin } },
        .ok (some .finished))
      ∧ Going certificate queue none boot F state calls)
  := by
  unfold Client.Stream.next
  rw [if_pos hdelivered]
  dsimp only
  rw [if_pos hcomplete]
  unfold Session.finish
  rw [if_pos (by simp [Session.isConnected, hstage])]
  unfold Session.disconnect
  rw [hstage]
  apply Act.Ensures.bind
  · apply (hangUp_going hF).bind
    intro _
    apply Act.Ensures.bind_report
    exact .pure (Q := fun after state calls =>
      after = { stream.session with stage := .idle pin }
        ∧ Going certificate queue none boot F state calls) fun _ _ h => ⟨rfl, h⟩
  intro closed
  apply Act.Ensures.of_fact
  rintro rfl
  exact .pure fun _ _ h => ⟨rfl, h⟩

end Streaming

section Storing

variable {slot : String}

/-- A programmer that is closed opens the slot after the selected one. -/
theorem begun_going (hF : Lasting F) (hnext : SlotRing.twoSlots.next boot = .ok slot)
    (hslot : slot ∈ ["factory", "ota_0", "ota_1"]) :
  Act.Ensures (Going certificate queue live boot F)
    (({} : Programmer String).begin slotTable)
    (fun r state calls => r = ({ session := some { writer := slot, slot } }, .ok ())
      ∧ Going certificate queue live boot (Opened slot F) state calls)
  := by
  unfold Programmer.begin
  rw [if_neg (by simp [Programmer.isOpen])]
  apply (bootLabel_going hF).bind
  intro running
  apply Act.Ensures.of_fact
  rintro rfl
  dsimp only
  rw [hnext]
  apply (openWriter_going hF hslot).bind
  intro opened
  apply Act.Ensures.of_fact
  rintro rfl
  apply Act.Ensures.bind_report
  exact .pure fun _ _ h => ⟨rfl, h⟩

/-- The first bytes of an image open the slot after the selected one, and wait for their page
to fill. -/
theorem stored_going (hF : Lasting F) {x : Transfer String} {bytes : Bytes}
    (hnext : SlotRing.twoSlots.next boot = .ok slot)
    (hslot : slot ∈ ["factory", "ota_0", "ota_1"]) (hne : bytes ≠ [])
    (hshort : bytes.length < pageSize) (hprogrammer : x.programmer = {})
    (hstarted : x.isStarted = false) :
  Act.Ensures (Going certificate queue live boot F) (x.store platform bytes)
    (fun r state calls =>
      r = ({ x with programmer := { session := some { writer := slot, slot, page := bytes } },
                    status := { x.status with inProgress := true },
                    isStarted := true, size := x.size + bytes.length }, .ok ())
      ∧ Going certificate queue live boot (Opened slot F) state calls)
  := by
  obtain ⟨stream, programmer, status, total, started⟩ := x
  obtain rfl : programmer = {} := hprogrammer
  obtain rfl : started = false := hstarted
  unfold Transfer.store Transfer.begin
  rw [if_neg (by simp)]
  extract_lets old status jp
  rw [if_neg (by simp [Programmer.isOpen])]
  simp only [pure_bind, jp]
  apply Act.Ensures.bind
  · apply (begun_going hF hnext hslot).bind
    intro begun
    apply Act.Ensures.of_fact
    rintro rfl
    exact .pure (Q := fun r state calls =>
      r = (({ stream, programmer := { session := some { writer := slot, slot } }, status,
              size := total, isStarted := true } : Transfer String), .ok ())
        ∧ Going certificate queue live boot (Opened slot F) state calls) fun _ _ h => ⟨rfl, h⟩
  intro begun
  apply Act.Ensures.of_fact
  rintro rfl
  have hstage : ∀ p : Programming String, p.page = [] →
      p.stage slotTable bytes = (pure ({ p with page := bytes }, .ok ()) : Act Rig _) := by
    intro p hpage
    have htake : bytes.take pageSize = bytes := List.take_of_length_le (Nat.le_of_lt hshort)
    rw [Programming.stage, if_neg (by simpa using hne)]
    simp only [hpage, List.length_nil, Nat.sub_zero, List.nil_append, htake]
    rw [if_pos hshort]
  unfold Programmer.write
  simp only [platform]
  rw [hstage _ rfl]
  simp only [pure_bind]
  exact .pure fun _ _ h => ⟨rfl, h⟩

/-- A short image is committed: it is written, checked and selected. -/
theorem committed_going (hF : Lasting F) {bytes : Bytes} (hne : bytes ≠ []) :
  Act.Ensures (Going certificate queue live boot F)
    (({ session := some { writer := slot, slot, page := bytes } } : Programmer String).commit
      slotTable)
    (fun r state calls => r = ({}, .ok ⟨slot, bytes.length, Sha256.hex bytes⟩)
      ∧ Going certificate queue live slot F state calls)
  := by
  unfold Programmer.commit
  dsimp only
  unfold Programming.flush Programming.writePage
  rw [if_neg (by simpa using hne)]
  apply Act.Ensures.bind
  · apply Act.Ensures.bind
    · apply Act.Ensures.bind_report
      apply write_going hF slot bytes
    intro written
    apply Act.Ensures.of_fact
    rintro rfl
    exact .pure (Q := fun r state calls =>
      r = ((({ writer := slot, slot, page := bytes } : Programming String).flushed bytes), .ok ())
        ∧ Going certificate queue live boot F state calls) fun _ _ h => ⟨rfl, h⟩
  intro flushed
  apply Act.Ensures.of_fact
  rintro rfl
  apply (finish_going hF slot).bind
  intro finished
  apply Act.Ensures.of_fact
  rintro rfl
  apply (select_going hF slot).bind
  intro chosen
  apply Act.Ensures.of_fact
  rintro rfl
  apply Act.Ensures.bind_report
  apply Act.Ensures.pure
  intro _ _ h
  refine ⟨?_, h⟩
  simp only [Programming.installation, Programming.flushed, Nat.zero_add]
  rfl

end Storing

/-- A worker that can download, and does not restart the device afterwards. -/
structure Poised (certificate : Bytes) (pin : Pin) (worker : Worker String) : Prop where
  ready : Ready certificate pin worker.client.session
  programmer_eq : worker.programmer = {}
  host_ne : worker.config.serverHost ≠ ""
  path_ne : worker.config.firmwarePath ≠ ""
  stays : worker.config.autoReboot = false

/-- A response that a buffer of the given capacity takes in at once, and the body in it. -/
structure OneRead (capacity : Nat) (raw body : Bytes) : Prop where
  raw_ne : raw ≠ []
  fits : raw.length ≤ Client.chunkCapacity
  body_ne : body ≠ []
  short : body.length < pageSize
  fed : ∃ after size, (Reception.start .streamed capacity).feed 0 raw = (after, .ok (.body size))
    ∧ after.bodyComplete = true ∧ after.front = body

/-- A response with a good head and as many bytes after it as the head declares, or more. -/
theorem OneRead.of_response {capacity : Nat} {raw body : Bytes} {head : Head}
    (hfits : raw.length ≤ Client.chunkCapacity) (hcapacity : raw.length ≤ capacity)
    (h : response? raw = some (head, body)) (hne : body ≠ [])
    (hshort : body.length < pageSize) (hlength : head.contentLength.toNat ≤ body.length) :
  OneRead capacity raw body
  := by
  have hraw : raw ≠ [] := by
    rintro rfl
    cases h
  obtain ⟨after, size, hfed, hhead, hfront, hreceived⟩ :=
    Reception.feed_response hcapacity h hne
  refine ⟨hraw, hfits, hne, hshort, after, size, hfed, ?_, hfront⟩
  rw [Reception.bodyComplete, hhead, hreceived]
  apply decide_eq_true hlength

section Downloading

variable {slot : String} {raw body : Bytes} {worker : Worker String}

/-- Moving an image that arrives in one read leaves all of it waiting to be committed. -/
theorem pumped_going (hF : Lasting F) (hnext : SlotRing.twoSlots.next boot = .ok slot)
    (hslot : slot ∈ ["factory", "ota_0", "ota_1"]) {x : Transfer String}
    (hprogrammer : x.programmer = {}) (hstarted : x.isStarted = false) (hsize : x.size = 0)
    (hfresh : x.stream.isDelivered = false) (hindex : x.stream.index = 0) {capacity : Nat}
    (hreception : x.stream.reception = .start .streamed capacity)
    (hstage : x.stream.session.stage = .connected pin) (h : OneRead capacity raw body) :
  Act.Ensures (Going certificate queue (some { reads := [.data raw] }) boot F) (x.run platform)
    (fun r state calls =>
      (r.2 = .ok ()
        ∧ r.1.stream.session = { x.stream.session with stage := .idle pin }
        ∧ r.1.programmer = { session := some { writer := slot, slot, page := body } }
        ∧ r.1.size = body.length)
      ∧ Going certificate queue none boot (Opened slot F) state calls)
  := by
  obtain ⟨hraw, hfits, hbody, hshort, after, size, hfeed, hcomplete, hfront⟩ := h
  have hcount : UInt64.size = 18446744073709551614 + 2 := rfl
  unfold Transfer.run
  rw [hcount, Transfer.pump]
  apply Act.Ensures.bind
  · apply fragment_going hF rfl hraw hfits
    · simp [Session.isConnected, hstage]
    · apply hfresh
    · rw [hreception, hindex]
      apply hfeed
  intro received
  apply Act.Ensures.of_fact
  rintro rfl
  dsimp only
  rw [hfront]
  apply Act.Ensures.bind
  · apply stored_going hF hnext hslot hbody hshort
    · apply hprogrammer
    · apply hstarted
  intro stored
  apply Act.Ensures.of_fact
  rintro rfl
  dsimp only
  rw [Transfer.pump]
  apply Act.Ensures.bind
  · apply finished_going (hF.opened slot)
    · apply hstage
    · rfl
    · apply hcomplete
  intro finished
  apply Act.Ensures.of_fact
  rintro rfl
  exact .pure fun _ _ h => ⟨⟨rfl, rfl, rfl, by simp [hsize]⟩, h⟩

/-- Streaming an image that arrives in one read installs it. -/
theorem streamed_going (hF : Lasting F) (hnext : SlotRing.twoSlots.next boot = .ok slot)
    (hslot : slot ∈ ["factory", "ota_0", "ota_1"]) (hworker : Poised certificate pin worker)
    (h : OneRead worker.options.firmwareBuffer raw body) :
  Act.Ensures (Going certificate ({ reads := [.data raw] } :: queue) live boot F)
    (worker.streamImage platform)
    (fun r state calls =>
      (r.2 = .ok (.installed ⟨slot, body.length, Sha256.hex body⟩)
        ∧ Poised certificate pin r.1 ∧ r.1.options = worker.options)
      ∧ Going certificate queue none slot (Opened slot F) state calls)
  := by
  obtain ⟨hready, hprogrammer, hhost, hpath, hstays⟩ := hworker
  obtain ⟨request, hrequest⟩ : ∃ request, Request.get worker.config.serverHost
      worker.config.firmwarePath = .ok request := by
    rw [Request.get, dif_neg hhost, dif_neg hpath]
    exact ⟨_, rfl⟩
  unfold Worker.streamImage
  rw [hrequest]
  apply (opened_going hF rfl rfl hready request request.bytes_ne _).bind
  intro opened
  apply Act.Ensures.of_fact
  rintro ⟨session, rfl, rfl⟩
  apply Act.Ensures.bind
  · apply pumped_going hF hnext hslot
    · apply hprogrammer
    · rfl
    · rfl
    · rfl
    · rfl
    · rfl
    · rfl
    · apply h
  rintro ⟨x, outcome⟩
  apply Act.Ensures.of_fact
  dsimp only
  rintro ⟨rfl, hsession, hstored, hsize⟩
  unfold Client.Stream.close Session.finish
  rw [hsession, if_neg (by simp [Session.isConnected])]
  simp only [pure_bind]
  unfold Transfer.complete
  have hne : x.size ≠ 0 := by
    rw [hsize]
    simpa using h.body_ne
  rw [if_neg hne, hstored]
  apply Act.Ensures.bind
  · apply Act.Ensures.bind_report
    apply (committed_going (hF.opened slot) h.body_ne).bind
    intro committed
    apply Act.Ensures.of_fact
    rintro rfl
    exact .pure (Q := fun r state calls =>
      r = (({} : Programmer String), .ok (.installed ⟨slot, body.length, Sha256.hex body⟩))
        ∧ Going certificate queue none slot (Opened slot F) state calls) fun _ _ h => ⟨rfl, h⟩
  intro completed
  apply Act.Ensures.of_fact
  rintro rfl
  apply Act.Ensures.pure
  intro _ _ h
  refine ⟨⟨rfl, ⟨⟨Or.inr rfl, ?_, ?_⟩, rfl, hhost, hpath, hstays⟩, rfl⟩, h⟩
  · apply hready.pin_eq
  · apply hready.verified

/-- A download installs the image in the slot after the selected one, and the next download can
follow. -/
theorem downloaded_going (hF : Lasting F) (hnext : SlotRing.twoSlots.next boot = .ok slot)
    (hslot : slot ∈ ["factory", "ota_0", "ota_1"]) (hworker : Poised certificate pin worker)
    (h : OneRead worker.options.firmwareBuffer raw body) :
  Act.Ensures (Going certificate ({ reads := [.data raw] } :: queue) live boot F)
    (worker.process platform .download)
    (fun r state calls =>
      (r.2 = .installed ⟨slot, body.length, Sha256.hex body⟩
        ∧ Poised certificate pin r.1 ∧ r.1.options = worker.options)
      ∧ Going certificate queue none slot (Opened slot F) state calls)
  := by
  apply Worker.process_download_ensures
  apply Act.Ensures.bind_report
  unfold Worker.download
  apply (streamed_going hF hnext hslot hworker h).bind
  rintro ⟨after, streamed⟩
  apply Act.Ensures.of_fact
  dsimp only
  rintro ⟨rfl, hpoised, hoptions⟩
  apply Act.Ensures.bind
  · unfold Worker.applyInstallation
    rw [if_neg (by simp [Worker.ended, hpoised.stays])]
    apply Act.Ensures.bind_report
    exact .pure (Q := fun applied state calls =>
      (Poised certificate pin applied ∧ applied.options = worker.options)
        ∧ Going certificate queue none slot (Opened slot F) state calls)
      fun _ _ h => ⟨⟨⟨hpoised.ready, hpoised.programmer_eq, hpoised.host_ne, hpoised.path_ne,
        hpoised.stays⟩, hoptions⟩, h⟩
  intro applied
  apply Act.Ensures.of_fact
  rintro ⟨hpoised, hoptions⟩
  exact .pure fun _ _ h => ⟨⟨rfl, ⟨hpoised.ready, hpoised.programmer_eq, hpoised.host_ne,
    hpoised.path_ne, hpoised.stays⟩, hoptions⟩, h⟩

end Downloading

/-- A run goes on with a download. -/
theorem reached_downloaded {site : Site Rig} {worker : Worker String} {cycles : List Cycle}
    {scene : Scene Rig} {slot : String} {raw body : Bytes} (hF : Lasting F)
    (hreached : Reached platform site worker cycles scene)
    (hgoing : Going certificate ({ reads := [.data raw] } :: queue) live boot F scene.state
      scene.calls)
    (hnext : SlotRing.twoSlots.next boot = .ok slot)
    (hslot : slot ∈ ["factory", "ota_0", "ota_1"]) (hworker : Poised certificate pin worker)
    (h : OneRead worker.options.firmwareBuffer raw body) :
  ∃ after last,
    Reached platform site after
      (⟨.installed ⟨slot, body.length, Sha256.hex body⟩, scene.calls, last.calls⟩ :: cycles) last
    ∧ Poised certificate pin after ∧ after.options = worker.options
    ∧ Going certificate queue none slot (Opened slot F) last.state last.calls
  := by
  obtain ⟨⟨hresult, hpoised, hoptions⟩, hgoing⟩ :=
    (downloaded_going hF hnext hslot hworker h).run scene hgoing
  have hcycle := hreached.cycle .download
  rw [hresult] at hcycle
  exact ⟨_, _, hcycle, hpoised, hoptions, hgoing⟩

section Sample

/-- The text of a certificate that is as short as it can be. -/
def sampleText : String :=
  "-----BEGIN CERTIFICATE-----\nMA8wDQIBATAAMAAwADAAMAA=\n-----END CERTIFICATE-----\n"

/-- The bytes of the certificate. -/
def sampleCertificate : Bytes :=
  [0x30, 0x0F, 0x30, 0x0D, 0x02, 0x01, 0x01, 0x30, 0, 0x30, 0, 0x30, 0, 0x30, 0, 0x30, 0]

/-- The configuration of a worker that does not restart the device. -/
def sampleConfig : Config where
  serverHost := "h"
  rootCertificate := "r"
  peerCertificate := sampleText
  firmwarePath := "/f"
  autoReboot := false

/-- The new worker. -/
def sampleWorker : Worker String where
  config := sampleConfig
  options := {}
  runningVersion := 1
  client := { session := { identity := sampleConfig.identity, timeout := .ofSeconds 30 } }

/-- A calm rig whose peer answers each connection with the next response, in one read. -/
def sampleRig (boot : String) (responses : List Bytes) : Rig where
  peer := {
    certificate := sampleCertificate
    queue := responses.map fun raw => { reads := [.data raw] } }
  slots := { boot }

/-- A sample rig is calm, and has not been restarted. -/
theorem sample_going (boot : String) (responses : List Bytes) :
  Going sampleCertificate (responses.map fun raw => { reads := [.data raw] }) none boot
    (fun calls => ∀ delay, .restart delay ∉ calls) (sampleRig boot responses) []
  := by
  constructor
  · constructor <;> rfl
  · intro _
    apply List.not_mem_nil

/-- The sample worker can be started on a sample rig. -/
theorem sample_reached (boot : String) (responses : List Bytes) :
  ∃ scene, Reached platform { state := sampleRig boot responses } sampleWorker [] scene
    ∧ Going sampleCertificate (responses.map fun raw => { reads := [.data raw] }) none boot
      (fun calls => ∀ delay, .restart delay ∉ calls) scene.state scene.calls
  := by
  refine ⟨{ state := sampleRig boot responses, notes := [Session.startNote sampleConfig.identity] },
    ?_, sample_going boot responses⟩
  have hstart : Worker.start platform sampleConfig {} 1 {}
        { toSite := { state := sampleRig boot responses } }
      = (.ok sampleWorker, { state := sampleRig boot responses,
                             notes := [Session.startNote sampleConfig.identity] }) := rfl
  apply Reached.start hstart

theorem sample_poised :
  Poised sampleCertificate ⟨[0x30, 0]⟩ sampleWorker
  := by
  refine ⟨⟨Or.inl rfl, ?_, ?_⟩, rfl, ?_, ?_, rfl⟩
  · decide +kernel
  · decide +kernel
  · decide
  · decide

/-- A response with a body of one byte. -/
theorem sample_oneRead :
  OneRead 4096 (okResponse [65]) [65]
  := by
  have hresponse : response? (okResponse [65]) = some (⟨1, 1, 200, 1⟩, [65]) := by
    decide +kernel
  apply OneRead.of_response _ _ hresponse
  all_goals decide +kernel

/-- That the device has not been restarted stays true while it is not. -/
theorem lasting_noRestart :
  Lasting fun calls => ∀ delay, .restart delay ∉ calls
  := by
  intro call calls hcall h delay
  rw [List.mem_cons, not_or]
  use (hcall delay).symm, h delay

end Sample

end FirmwareUpdate.Bench.Rig
