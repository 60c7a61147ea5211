import FirmwareUpdate.Proofs.Bench.Obliging
import FirmwareUpdate.Proofs.Hesitation.Client
import FirmwareUpdate.Proofs.Line.Transfer
import FirmwareUpdate.Worker.Cycle

/-!
# Cycles over transports that hesitate

Whatever a worker makes of a cycle over a transport that does everything at once, it makes of it
over one that hesitates: the result is the same, the server and the slots are left in the same
state, and the same calls have been made, apart from trying again and from the parts in which
requests were sent.

The main statement is `hesitation_transparent`.
-/

namespace FirmwareUpdate

variable {σ τ ω : Type} {p : Platform σ ω} {whims whims' : Whims σ τ} {timeout : Duration}

/-! ### Transfers -/

namespace Transfer

/-- What is stored is not taken from the stream. -/
theorem store_stream (x : Transfer ω) (bytes : Bytes) :
  Act.Ensures (fun _ _ => True) (x.store p bytes) fun r _ _ => r.1.stream = x.stream
  := by
  have hstore : x.store p bytes = withStream x.stream <$> x.store p bytes :=
    store_withStream x x.stream bytes
  constructor
  intro scene _
  rw [hstore]
  rfl

theorem store_hesitating (x : Transfer ω) (bytes : Bytes) :
  (x.store (p.hesitating whims) bytes).Parallel (x.store (p.hesitating whims') bytes)
  := .of_composed (store_composed (Slots.prepares_le Platform.slots_hesitating) x bytes)

theorem pump_hesitating (hp : p.transport.Straight) (hwhims : whims.Bearable timeout)
    (hwhims' : whims'.Bearable timeout) (count : Nat) (x : Transfer ω)
    (hx : x.stream.session.timeout = timeout) :
  (x.pump (p.hesitating whims) count).Parallel (x.pump (p.hesitating whims') count)
  := by
  have hcourse := Session.course_timeout (p.transport.hesitating whims) timeout
  induction count generalizing x with
  | zero =>
      rw [pump, pump]
      exact .pure _
  | succ count ih =>
      rw [pump, pump]
      apply (Client.Stream.next_hesitating hp hwhims hwhims' x.stream hx).bind_of hx
        (Client.Stream.next_course hcourse x.stream)
      rintro ⟨stream, fault | _ | _ | bytes⟩ ⟨_, _, htimeout⟩
      · exact .pure _
      · exact .pure _
      · apply (store_hesitating { x with stream } _).bind_of trivial
          (store_stream { x with stream } _)
        rintro ⟨x, fault | ⟨⟩⟩ ⟨_, _, hstream⟩
        · exact .pure _
        · apply ih
          rw [hstream]
          exact htimeout
      · exact .pure _

end Transfer

/-! ### Workers -/

namespace Worker

variable {worker : Worker ω}

section

variable (hp : p.transport.Straight) (hwhims : whims.Bearable timeout)
  (hwhims' : whims'.Bearable timeout) (hworker : worker.client.session.timeout = timeout)

include hp hwhims hwhims' hworker

theorem streamImage_hesitating :
  (worker.streamImage (p.hesitating whims)).Parallel (worker.streamImage (p.hesitating whims'))
  := by
  have hcourse := Session.course_timeout (p.transport.hesitating whims) timeout
  unfold streamImage
  split
  · exact .pure _
  case h_2 request _ =>
  apply (Client.openStream_hesitating hp hwhims hwhims' hworker request _).bind_of hworker
    (Client.openStream_course hcourse _ request _)
  rintro ⟨client, fault | stream⟩ ⟨_, _, htimeout⟩
  · exact .pure _
  apply (Transfer.pump_hesitating hp hwhims hwhims' UInt64.size _ htimeout).bind
  rintro ⟨x, outcome⟩
  apply Session.finish_hesitating.bind
  intro session
  obtain fault | ⟨⟩ := outcome
  · exact .pure _
  · apply Act.Parallel.bind
    · exact .of_composed (Transfer.complete_composed Platform.slots_hesitating x)
    · exact fun _ => .pure _

theorem check_hesitating :
  (worker.check (p.hesitating whims)).Parallel (worker.check (p.hesitating whims'))
  := by
  unfold check
  split
  · exact .pure _
  apply (Client.fetch_hesitating hp hwhims hwhims' hworker _ _).bind
  rintro ⟨client, fault | body⟩
  · exact .pure _
  · exact .of_composed (readMetadata_composed Platform.observes_hesitating _ body)

theorem download_hesitating :
  (worker.download (p.hesitating whims)).Parallel (worker.download (p.hesitating whims'))
  := by
  unfold download
  apply (streamImage_hesitating hp hwhims hwhims' hworker).bind
  rintro ⟨worker, fault | result⟩
  · apply Act.Parallel.bind
    · exact .of_composed
        (giveUp_composed (Slots.prepares_le Platform.slots_hesitating) worker.ended)
    · exact fun _ => .pure _
  · cases result with
    | installed done =>
        apply Act.Parallel.bind
        · exact .of_composed (applyInstallation_composed Platform.restarts_hesitating _ done)
        · exact fun _ => .pure _
    | _ => exact .pure _

/-- A cycle comes to the same however the transport hesitates. -/
theorem process_hesitating (trigger : Trigger) :
  (worker.process (p.hesitating whims) trigger).Parallel
    (worker.process (p.hesitating whims') trigger)
  := by
  unfold process
  apply Act.Parallel.bind
  · unfold act
    apply Act.Parallel.bind_report
    cases trigger with
    | check => exact check_hesitating hp hwhims hwhims' hworker
    | download => exact download_hesitating hp hwhims hwhims' hworker
  rintro ⟨worker, result⟩
  apply Act.Parallel.bind
  · exact .of_composed (rearm_composed Platform.timer_hesitating worker trigger)
  · exact fun _ => .bind_reportAll (.pure _)

end

end Worker

/-- Trying again and sending in parts are transparent. Let a transport follow whatever whims,
putting each handshake, send and receive off as long as the time limit is not reached and taking one
or more of the bytes at each send. Then it is handed exactly the bytes of a request, in order and
once; connecting, asking, every read and a whole cycle come to the same as over a transport that
does everything at once; and the platform, with the server and the slots, is left in the same
state. -/
theorem hesitation_transparent (hp : p.transport.Straight) (hwhims : whims.Bearable timeout)
    {s s' : Scene (σ × τ)} (hs : Abreast s s') :
  let hesitant := p.hesitating whims
  let prompt := p.hesitating Whims.prompt
  (∀ session : Session, session.timeout = timeout →
    Concur (session.connect hesitant.transport s) (session.connect prompt.transport s')
    ∧ (∀ request : Bytes,
      Concur (session.ask hesitant.transport request s) (session.ask prompt.transport request s')
      ∧ ∃ part rest, request = part ++ rest
        ∧ handed (session.ask hesitant.transport request s).2.calls = handed s.calls ++ part
        ∧ ((session.ask hesitant.transport request s).1.2 = .ok () → rest = [])
        ∧ (session.isConnected = true → (p.transport.deliver request s.state.1).1 = .ok () →
          (session.ask hesitant.transport request s).1.2 = .ok ()))
    ∧ ∀ capacity index : Nat,
      Concur (session.readChunk hesitant.transport capacity index s)
        (session.readChunk prompt.transport capacity index s'))
  ∧ ∀ (worker : Worker ω) (trigger : Trigger), worker.client.session.timeout = timeout →
    Concur (worker.process hesitant trigger s) (worker.process prompt trigger s')
    ∧ ((worker.process prompt trigger s').2.calls.any Call.isRefused = false →
      handed (worker.process hesitant trigger s).2.calls
        = handed (worker.process prompt trigger s').2.calls)
  := by
  have hprompt : (Whims.prompt : Whims σ τ).Bearable timeout := Whims.prompt_bearable timeout
  constructor
  · intro session hsession
    refine ⟨?_, ?_, ?_⟩
    · exact (Session.connect_hesitating hp hwhims hprompt hsession).concur hs
    · intro request
      exact ⟨(Session.ask_hesitating hp hwhims hprompt hsession request).concur hs,
        Session.ask_hands hp hwhims hsession request s⟩
    · intro capacity index
      exact (Session.readChunk_hesitating hp hwhims hprompt hsession capacity index).concur hs
  · intro worker trigger hworker
    have hconcur := (Worker.process_hesitating hp hwhims hprompt hworker trigger).concur hs
    exact ⟨hconcur, hconcur.abreast.handed_eq⟩

namespace Bench

/-- A device on which nothing goes wrong: the bytes that its server has been sent, the chunks that
it is going to receive, and the bytes that have been written to a slot. -/
structure Attentive where
  sent : Bytes := []
  line : List Bytes := []
  image : Bytes := []

/-- The platform of the device. -/
def attentive : Platform Attentive String where
  transport := {
    configure _ := pure (.ok ())
    dial _ _ := pure (.ok ())
    handshake := pure (.ready ())
    verifyChain := pure (.ok ())
    peerCertificate := pure (some Rig.sampleCertificate)
    send bytes := Op.onState fun device =>
      (.ready bytes.length, { device with sent := device.sent ++ bytes })
    receive _ := Op.onState fun device =>
      (.ready (device.line.headD []), { device with line := device.line.tail })
    hangUp := pure ()
    reset := pure () }
  slots := {
    bootLabel := pure (.ok "factory")
    openWriter slot := Op.onState fun device => (.ok slot, { device with image := [] })
    write _ data := Op.onState fun device =>
      (.ok (), { device with image := device.image ++ data })
    finish _ := pure (.ok ())
    discard _ := pure ()
    select _ := pure (.ok ()) }
  timer := {
    arm _ := pure (.ok ())
    disarm := pure () }
  restart _ := pure ()

theorem attentive_straight :
  attentive.transport.Straight
  where
  handshake _ _ := by rintro ⟨⟩
  send _ _ := .inl rfl
  receive _ _ _ := by rintro ⟨⟩
  deliver_append {first rest} _ _ := by
    funext device
    change (Except.ok (), { device with sent := device.sent ++ (first ++ rest) })
      = (Except.ok (), { device with sent := device.sent ++ first ++ rest })
    rw [List.append_assoc]

/-- The whims of a transport that puts everything off once, for a second, and takes three bytes at a
time. -/
def reluctant : Whims Attentive Bool := fun _ (_, isFresh) =>
  if isFresh then (.putOff (.ofSeconds 1), false) else (.getOn 2, true)

theorem reluctant_bearable :
  reluctant.Bearable (.ofSeconds 30)
  := by
  intro errand state isFresh
  have hready : ∀ rounds elapsed,
      GetsOn (.ofSeconds 30) (reluctant errand) state rounds elapsed false :=
    fun _ _ => .now rfl
  cases isFresh with
  | false => exact hready 0 0
  | true => exact .later rfl (by decide) (hready _ _)

/-- A reluctant transport is handed the whole request for the metadata, and a check over it comes to
the same as over a prompt one. -/
theorem hesitation_transparent_sample :
  let hesitant := attentive.hesitating reluctant
  let scene : Scene (Attentive × Bool) := { state := ({ line := [utf8 "no response"] }, true) }
  let session : Session :=
    { Rig.sampleWorker.client.session with stage := .connected ⟨Rig.sampleCertificate⟩ }
  (hesitant.transport.handshake scene.toSite).1 = .retry (.ofSeconds 1)
    ∧ handed (session.ask hesitant.transport metadataRequest.bytes scene).2.calls
      = metadataRequest.bytes
    ∧ Concur (Rig.sampleWorker.process hesitant .check scene)
      (Rig.sampleWorker.process (attentive.hesitating Whims.prompt) .check scene)
  := by
  intro hesitant scene session
  obtain ⟨hsessions, hworkers⟩ := hesitation_transparent attentive_straight reluctant_bearable
    (.refl scene)
  obtain ⟨-, hask, -⟩ := hsessions session rfl
  obtain ⟨-, part, rest, hrequest, hhanded, hrest, hok⟩ := hask metadataRequest.bytes
  rw [hrest (hok rfl rfl), List.append_nil] at hrequest
  refine ⟨rfl, ?_, (hworkers Rig.sampleWorker .check rfl).1⟩
  rw [hhanded, hrequest]
  rfl

end Bench

end FirmwareUpdate
