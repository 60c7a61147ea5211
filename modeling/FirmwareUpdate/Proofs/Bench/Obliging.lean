import FirmwareUpdate.Proofs.Bench.Download
import FirmwareUpdate.Proofs.Worker.Delivery

/-!
# A device on which nothing goes wrong

The peer of this device presents the sample certificate, takes whatever is sent, and is never
refused; the slots take every image. What the device receives it reads from a line.
-/

namespace FirmwareUpdate.Bench

/-- The slot that is selected for boot, and what has been written to the slot that was opened
last. -/
structure Storage where
  boot : String
  image : Bytes := []

/-- The platform of the device. -/
def obliging : Platform Storage String where
  transport := {
    configure _ := pure (.ok ())
    dial _ _ := pure (.ok ())
    handshake := pure (.ready ())
    verifyChain := pure (.ok ())
    peerCertificate := pure (some Rig.sampleCertificate)
    send bytes := pure (.ready bytes.length)
    receive _ := pure (.ready [])
    hangUp := pure ()
    reset := pure () }
  slots := {
    bootLabel := Op.onState fun storage => (.ok storage.boot, storage)
    openWriter slot := Op.onState fun storage => (.ok slot, { storage with image := [] })
    write _ page := Op.onState fun storage =>
      (.ok (), { storage with image := storage.image ++ page })
    finish _ := pure (.ok ())
    discard _ := pure ()
    select slot := Op.onState fun storage => (.ok (), { storage with boot := slot }) }
  timer := {
    arm _ := pure (.ok ())
    disarm := pure () }
  restart _ := pure ()

/-- The passage of an image on the device. -/
def obligingPassage (boot : String) : Passage Storage String where
  idle storage := storage.boot = boot
  holding _ written storage := storage.image = written
  checked _ := True

/-- Nothing that the transport does changes the device. -/
theorem obliging_kept (F : Storage → Prop) :
  obliging.transport.KeepsUnread fun storage _ => F storage
  := by
  constructor
  all_goals
    intros
    exact Act.Ensures.perform fun _ _ h => h

theorem obliging_take (boot slot : String) (image : Bytes) :
  obliging.Take (obligingPassage boot) boot slot image
  where
  discard _ _ h := h
  bootLabel _ h := ⟨congrArg Except.ok h, h⟩
  openWriter _ _ := ⟨slot, rfl, rfl⟩
  write _ _ _ _ _ h := ⟨rfl, congrArg (· ++ _) h⟩
  finish _ _ _ := ⟨rfl, trivial⟩
  select _ _ := rfl
  idle_kept := obliging_kept _
  holding_kept _ _ := obliging_kept _

/-- The request of the sample worker for its image. -/
def imageRequest : Request :=
  ⟨"h", "/f", by decide, by decide⟩

theorem imageRequest_eq :
  Request.get Rig.sampleWorker.config.serverHost Rig.sampleWorker.config.firmwarePath
    = .ok imageRequest
  := rfl

/-- The request of the sample worker for the metadata. -/
def metadataRequest : Request :=
  ⟨"h", Rig.sampleConfig.metadataPath, by decide, by decide⟩

theorem metadataRequest_eq :
  Request.get Rig.sampleWorker.config.serverHost Rig.sampleWorker.config.metadataPath
    = .ok metadataRequest
  := rfl

/-- The peer of the device accepts the sample worker and takes its requests. -/
theorem obliging_accepted (line : List Bytes) (request : Request)
    (hrequest : request = imageRequest ∨ request = metadataRequest) :
  (Client.begin obliging.onLine.transport Rig.sampleWorker.client.session request
    { state := (⟨"factory", []⟩, line) }).1.2 = .ok ()
  := by
  have hline : Alike (σ := Storage) { state := (⟨"factory", []⟩, line) }
      { state := (⟨"factory", []⟩, []) } := ⟨rfl, rfl⟩
  rw [Platform.transport_onLine, Client.begin_alike hline]
  rcases hrequest with rfl | rfl
  · decide +kernel
  · decide +kernel

/-- The head of a response with a body of two bytes. -/
def pairStart : Bytes :=
  utf8 "HTTP/1.1 200 OK\r\nContent-Length: 2"

/-- The response, cut within its head and within its body. -/
def pairLine : List Bytes :=
  [pairStart.take 20, pairStart.drop 20 ++ Head.terminator ++ [65], [66]]

theorem pair_isResponse :
  IsResponse pairStart [65, 66] ⟨1, 1, 200, 2⟩
  := by
  refine ⟨?_, ?_, rfl⟩
  · decide +kernel
  · decide +kernel

theorem pair_response :
  response? pairLine.flatten = some (⟨1, 1, 200, 2⟩, [65, 66])
  := by
  decide +kernel

end FirmwareUpdate.Bench
