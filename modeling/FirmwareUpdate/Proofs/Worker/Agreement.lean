import FirmwareUpdate.Proofs.Bench.Obliging
import FirmwareUpdate.Proofs.Http.Arrivals
import FirmwareUpdate.Proofs.Http.Plain
import FirmwareUpdate.Proofs.Line.Cycle
import FirmwareUpdate.Proofs.Publish.Announcement
import FirmwareUpdate.Proofs.Resemblance
import FirmwareUpdate.Proofs.Worker.Answers

/-!
# Publisher and device agree

Whatever the publisher lets through, a device finds in it what was meant: it reads the version, the
path and the interval as they were published. The response with the metadata is so short that it
fits into the buffer, however it is cut and however late its chunks come.
-/

namespace FirmwareUpdate

open Arrival

variable {σ ω : Type} {p : Platform σ ω} {D : List Arrival → σ → Prop} {arrivals : List Arrival}
  {version : UInt32} {path : String} {interval : Option UInt32} {m : Metadata}

/-- The response with an announcement is short. -/
theorem length_announced_le (hm : Publish.announce version path interval = .ok m) :
  (Bench.okResponse (utf8 m.render)).length ≤ 341
  := by
  have hbody := Metadata.length_render_le hm
  have hlength := Bench.length_okResponse_le (Nat.lt_of_le_of_lt hbody (by decide))
  omega

/-- The announcement is collected from the response with it. -/
theorem gather_announced (hm : Publish.announce version path interval = .ok m)
    (hresponse : (chunks arrivals).flatten = Bench.okResponse (utf8 m.render)) {capacity : Nat}
    (hcapacity : 341 ≤ capacity) :
  gather (.start .whole capacity) 0 (chunks arrivals) = .ok (utf8 m.render)
  := by
  have hbody := Metadata.length_render_le hm
  have hlength := length_announced_le hm
  have hsize : (utf8 m.render).length < UInt64.size := by
    apply Nat.lt_of_le_of_lt hbody
    decide
  have hnumber : (UInt64.ofNat (utf8 m.render).length).toNat = (utf8 m.render).length :=
    UInt64.toNat_ofNat_of_lt hsize
  have hparsed := Reception.parsed_start .whole capacity
  have hunrefused : ¬ Refused (gather (.start .whole capacity) 0 (chunks arrivals)) := by
    apply gather_unrefused hparsed (fun _ => rfl) rfl
    rw [List.nil_append, hresponse]
    apply Nat.le_trans hlength hcapacity
  rw [gather_eq rfl hparsed (fun _ => rfl) unconcluded_nil hunrefused, List.nil_append, hresponse,
    conclude_of_response (Bench.response?_okResponse hsize)]
  dsimp only
  rw [hnumber, if_pos (Nat.le_refl _), List.take_length]

namespace Worker

/-- A device that asks for what was published is told it. -/
theorem fetch_announced (hdelivers : p.transport.Delivers D) {worker : Worker ω}
    (hcapacity : 341 ≤ worker.options.metadataBuffer)
    (hm : Publish.announce version path interval = .ok m) {request : Request}
    (hne : [] ∉ chunks arrivals)
    (hresponse : (chunks arrivals).flatten = Bench.okResponse (utf8 m.render))
    (htimely : Timely worker.client.session.timeout 0 0 arrivals) :
  Act.Ensures (fun state calls =>
      Client.Accepts p.transport worker.client.session request state calls ∧ D arrivals state)
    (worker.client.fetch p.transport request worker.options.metadataBuffer)
    fun r _ _ => r.2 = .ok (utf8 m.render)
  := by
  have hline : ∀ bytes ∈ chunks arrivals, bytes ≠ [] ∧ bytes.length ≤ Client.chunkCapacity := by
    intro bytes hbytes
    refine ⟨?_, ?_⟩
    · rintro rfl
      apply hne hbytes
    · have hlength := length_announced_le hm
      rw [← hresponse] at hlength
      apply Nat.le_trans (List.Sublist.length_le (List.sublist_flatten_of_mem hbytes))
      apply Nat.le_trans hlength
      decide
  exact worker.client.fetch_collects request worker.options.metadataBuffer
    ((Client.begin_composed le_rfl worker.client.session request).keeps
      (hdelivers.kept arrivals).unread_le)
    fun session hconnected htime => hdelivers.collect hconnected hline (by rwa [htime])
      (gather_announced hm hresponse hcapacity)

/-- A device that is told what was published acts on it. -/
theorem check_announced (hdelivers : p.transport.Delivers D) {worker : Worker ω}
    (hcapacity : 341 ≤ worker.options.metadataBuffer)
    (hm : Publish.announce version path interval = .ok m) {request : Request}
    (hrequest : Request.get worker.config.serverHost worker.config.metadataPath = .ok request)
    (hne : [] ∉ chunks arrivals)
    (hresponse : (chunks arrivals).flatten = Bench.okResponse (utf8 m.render))
    (htimely : Timely worker.client.session.timeout 0 0 arrivals) :
  Act.Ensures (fun state calls =>
      Client.Accepts p.transport worker.client.session request state calls ∧ D arrivals state)
    (worker.check p) fun r _ _ => ∃ client, r = assess { worker with client } m
  := by
  unfold check
  rw [hrequest]
  apply (fetch_announced hdelivers hcapacity hm hne hresponse htimely).bind
  rintro ⟨client, fetched⟩
  apply Act.Ensures.of_forall
  rintro _ _ rfl
  apply (readMetadata_assess _ _).imp_right
  rintro r _ _ hr
  rw [Metadata.parse_render hm] at hr
  exact ⟨client, hr⟩

/-- The timer is set as the configuration says, with the last call that was made. -/
def SetsTimer (config : Config) (calls : List Call) : Prop :=
  ∃ pending earlier,
    (config.pollingInterval = 0 ∧ calls = .disarm pending :: earlier)
    ∨ (config.pollingInterval ≠ 0 ∧ ∃ outcome,
        calls = .arm (.ofSeconds config.pollingInterval.toNat) pending outcome :: earlier)

theorem armTimer_sets (worker : Worker ω) :
  Act.Ensures (fun _ _ => True) (worker.armTimer p)
    fun _ _ calls => SetsTimer worker.config calls
  := by
  unfold armTimer
  split
  case h_1 period hperiod =>
    have hinterval : worker.config.pollingInterval ≠ 0
        ∧ Duration.ofSeconds worker.config.pollingInterval.toNat = period := by
      unfold Config.period at hperiod
      split at hperiod
      · cases hperiod
      case isFalse hne => exact ⟨hne, Option.some.inj hperiod⟩
    obtain ⟨hne, rfl⟩ := hinterval
    apply Act.Ensures.bind
      (R := fun _ _ calls => SetsTimer worker.config calls)
    · exact .perform fun _ calls _ => ⟨worker.triggers, calls, .inr ⟨hne, _, rfl⟩⟩
    intro outcome
    split
    · apply Act.Ensures.reportAll
      exact fun _ _ h => h
    · exact .pure fun _ _ h => h
  case h_2 hperiod =>
    have hzero : worker.config.pollingInterval = 0 := by
      unfold Config.period at hperiod
      split at hperiod
      case isTrue hzero => exact hzero
      case isFalse => cases hperiod
    apply Act.Ensures.bind_report
    exact .perform fun _ calls _ => ⟨worker.triggers, calls, .inl ⟨hzero, rfl⟩⟩

/-- Publisher and device agree. For every version, path and interval that the publisher lets
through, a check with a peer that is accepted never fails when it receives the published metadata in
a plain response, in whatever chunks and after whatever pauses within the time limit. It finds
itself up to date if it runs the version, and otherwise the update at the path, which it is then
going to download. The path and the interval are taken over, and the timer is set for the
interval. -/
theorem process_announced (hdelivers : p.transport.Delivers D) {worker : Worker ω}
    (hoptions : worker.options = {})
    (hm : Publish.announce version path interval = .ok m) {request : Request}
    (hrequest : Request.get worker.config.serverHost worker.config.metadataPath = .ok request)
    (hne : [] ∉ chunks arrivals)
    (hresponse : (chunks arrivals).flatten = Bench.okResponse (utf8 m.render))
    (htimely : Timely worker.client.session.timeout 0 0 arrivals) :
  Act.Ensures (fun state calls =>
      Client.Accepts p.transport worker.client.session request state calls ∧ D arrivals state)
    (worker.process p .check) fun r _ calls =>
      r.2 = (if version = worker.runningVersion then .upToDate version
        else .updateAvailable version path)
      ∧ (version ≠ worker.runningVersion → r.1.triggers.isPending .download = true)
      ∧ r.1.config = { worker.config with
          firmwarePath := path, pollingInterval := interval.getD worker.config.pollingInterval }
      ∧ SetsTimer r.1.config calls
  := by
  obtain ⟨file, rfl, rfl, -, -⟩ := Metadata.announce_eq hm
  have hcapacity : 341 ≤ worker.options.metadataBuffer := by
    rw [hoptions]
    decide
  unfold process act
  apply Act.Ensures.bind
  · apply Act.Ensures.bind_report
    apply check_announced hdelivers hcapacity hm hrequest hne hresponse htimely
  rintro ⟨after, result⟩
  apply Act.Ensures.of_forall
  rintro state calls ⟨client, heq⟩
  obtain ⟨rfl, rfl⟩ := Prod.mk.inj heq
  apply Act.Ensures.bind ((armTimer_sets _).imp_left fun _ _ _ => trivial)
  intro _
  apply Act.Ensures.bind_reportAll
  apply Act.Ensures.pure
  intro _ _ htimer
  refine ⟨rfl, ?_, rfl, htimer⟩
  intro hother
  change (CycleResult.request (if version = worker.runningVersion then .upToDate version
    else .updateAvailable version file.text) worker.triggers).download = true
  rw [if_neg hother]
  rfl

end Worker

/-! ### A device that has to wait -/

/-- Whether a peer is accepted does not depend on what has been noted and called, if no operation
does. -/
theorem Client.accepts_of_begin {t : Transport σ} (ht : t.Unread ≤ Respecting Eq)
    {session : Session} {request : Request} {s : Scene σ}
    (h : (begin t session request s).1.2 = .ok ()) (calls : List Call) :
  Accepts t session request s.state calls
  := by
  intro notes
  have hagree := (Act.Agree.of_composed (begin_composed ht session request)).run s
    { s with notes, calls } (.refl rfl)
  rw [← h]
  exact (congrArg Prod.snd hagree.1).symm

namespace Bench

/-- What a read finds of what arrives. What exceeds the capacity is left for the next one. -/
def readArrivals (capacity : Nat) : List Arrival → Progress Bytes × List Arrival
  | [] => (.ready [], [])
  | .stall spent :: rest => (.retry spent, rest)
  | .chunk bytes :: rest =>
    (.ready (bytes.take capacity),
      if bytes.length ≤ capacity then rest else .chunk (bytes.drop capacity) :: rest)

/-- A device on which nothing goes wrong, and at which the responses of its peer arrive with
pauses. -/
def waiting : Platform (List Arrival) String where
  transport := {
    configure _ := pure (.ok ())
    dial _ _ := pure (.ok ())
    handshake := pure (.ready ())
    verifyChain := pure (.ok ())
    peerCertificate := pure (some Rig.sampleCertificate)
    send bytes := pure (.ready bytes.length)
    receive capacity := Op.onState (readArrivals capacity)
    hangUp := pure ()
    reset := pure () }
  slots := {
    bootLabel := pure (.ok "factory")
    openWriter slot := pure (.ok slot)
    write _ _ := pure (.ok ())
    finish _ := pure (.ok ())
    discard _ := pure ()
    select _ := pure (.ok ()) }
  timer := {
    arm _ := pure (.ok ())
    disarm := pure () }
  restart _ := pure ()

theorem waiting_delivers :
  waiting.transport.Delivers Eq
  where
  stall capacity h := by
    dsimp only [waiting, Op.onState]
    rw [← h]
    exact ⟨rfl, rfl⟩
  chunk h hfits := by
    dsimp only [waiting, Op.onState]
    rw [← h]
    dsimp only [readArrivals]
    rw [List.take_of_length_le hfits, if_pos hfits]
    exact ⟨rfl, rfl⟩
  kept arrivals := by
    constructor
    all_goals
      intros
      exact Act.Ensures.perform fun _ _ h => h

/-- No operation of the device hangs on anything but what is going to arrive. -/
theorem waiting_respecting :
  waiting.transport.Unread ≤ Respecting Eq
  := by
  intro α op entry hop
  cases hop with
  | _ => exact fun _ _ h => ⟨rfl, h⟩

/-- A path with an equality sign and a letter of two bytes. -/
def samplePath : String :=
  "/fw/größe=2.bin"

/-- The announcement of version 2. -/
def sampleAnnouncement : Metadata :=
  ⟨some 2, some ⟨samplePath, by decide⟩, some 60⟩

/-- The response with the announcement, in two chunks after pauses. -/
def sampleArrivals : List Arrival :=
  let response := okResponse (utf8 sampleAnnouncement.render)
  [.stall (.ofSeconds 20), .chunk (response.take 50), .stall (.ofSeconds 3), .stall (.ofSeconds 25),
    .chunk (response.drop 50)]

theorem sampleAnnouncement_eq :
  Publish.announce 2 samplePath (some 60) = .ok sampleAnnouncement
  := by
  decide +kernel

theorem sampleArrivals_ne :
  [] ∉ chunks sampleArrivals
  := by
  decide +kernel

theorem sampleArrivals_eq :
  (chunks sampleArrivals).flatten = okResponse (utf8 sampleAnnouncement.render)
  := by
  decide +kernel

/-- The peer of the device accepts the sample worker. -/
theorem waiting_accepts (calls : List Call) :
  Client.Accepts waiting.transport Rig.sampleWorker.client.session metadataRequest sampleArrivals
    calls
  := by
  apply Client.accepts_of_begin waiting_respecting (s := { state := sampleArrivals })
  decide +kernel

end Bench

namespace Worker

/-- A device that runs version 1 finds version 2. -/
theorem process_announced_sample :
  Act.Ensures (fun state calls => Bench.sampleArrivals = state ∧ calls = [])
    (Bench.Rig.sampleWorker.process Bench.waiting .check) fun r _ calls =>
      r.2 = .updateAvailable 2 Bench.samplePath
      ∧ r.1.triggers.isPending .download = true
      ∧ r.1.config.firmwarePath = Bench.samplePath ∧ r.1.config.pollingInterval = 60
      ∧ SetsTimer r.1.config calls
  := by
  have hoptions : Bench.Rig.sampleWorker.options = {} := rfl
  have hprocess := process_announced Bench.waiting_delivers hoptions Bench.sampleAnnouncement_eq
    Bench.metadataRequest_eq Bench.sampleArrivals_ne Bench.sampleArrivals_eq (by decide +kernel)
  apply hprocess.imp
  · rintro _ _ ⟨rfl, rfl⟩
    refine ⟨Bench.waiting_accepts [], rfl⟩
  · rintro r _ calls ⟨hresult, hpending, hconfig, htimer⟩
    refine ⟨hresult, hpending (by decide), ?_, ?_, htimer⟩
    · rw [hconfig]
    · rw [hconfig]
      rfl

end Worker

end FirmwareUpdate
