import FirmwareUpdate.Proofs.Worker.Tidy

/-!
# Leftovers in the buffers

A worker has one buffer for metadata and one for images, and each response finds in it whatever the
responses before it have left there. The first chunk of a response clears the buffer, and before
that nothing of it is looked at. So a cycle whose buffers are left over from earlier ones is the
same as one whose buffers are new.
-/

namespace FirmwareUpdate

variable {σ ω : Type} {t : Transport σ} {p : Platform σ ω} {buffer : Buffer} {capacity : Nat}

/-- A reception in a buffer with what earlier responses have left in it. -/
def Reception.startIn (delivery : Delivery) (buffer : Buffer) : Reception :=
  { delivery, buffer }

/-- The buffers that a worker keeps. -/
structure Buffers where
  metadata : Buffer
  firmware : Buffer

/-- The buffers have the sizes that the options ask for. -/
def Buffers.Fit (buffers : Buffers) (options : Options) : Prop :=
  buffers.metadata.capacity = options.metadataBuffer
    ∧ buffers.firmware.capacity = options.firmwareBuffer

/-! ### Files -/

namespace Client

theorem collect_startIn (session : Session) (h : buffer.capacity = capacity) :
  collect t session (.startIn .whole buffer) 0 = collect t session (.start .whole capacity) 0
  := by
  subst h
  rw [collect, collect]
  congr 1

/-- The file that a request asks for, in a buffer with leftovers. -/
def fetchIn (t : Transport σ) (client : Client) (request : Request) (buffer : Buffer) :
    Act σ (Client × Except Fault Bytes) := do
  let id := client.nextId
  let client := client.advance
  report origin .info s!"Request {id}: GET https://{request.host}{request.path}"
  let (session, result) ← match ← begin t client.session request with
    | (session, .error fault) => pure (session, .error fault)
    | (session, .ok ()) => collect t session (.startIn .whole buffer) 0
  match result with
  | .ok body => report origin .debug s!"Request {id}: {body.length} body bytes"
  | .error fault => reportAll [request.failureNote id fault]
  return ({ client with session }, result)

theorem fetchIn_eq (client : Client) (request : Request) (h : buffer.capacity = capacity) :
  client.fetchIn t request buffer = client.fetch t request capacity
  := by
  unfold fetchIn
  simp only [collect_startIn _ h]
  rfl

/-! ### Streams -/

namespace Stream

/-- A stream through a buffer with leftovers. -/
def through (stream : Stream) (buffer : Buffer) : Stream :=
  { stream with reception := .startIn .streamed buffer }

/-- What has been left in the buffer is still there only if the stream fails or ends without a
chunk. -/
theorem receive_through {β : Type} {stream : Stream}
    (hreception : stream.reception = .start .streamed capacity) (hindex : stream.index = 0)
    (h : buffer.capacity = capacity) {next : Stream × Except Fault (Option Fragment) → Act σ β}
    (hnext : ∀ session fault,
      next ({ stream.through buffer with session }, .error fault)
        = next ({ stream with session }, .error fault)) :
  receive t (stream.through buffer) >>= next = receive t stream >>= next
  := by
  subst h
  obtain ⟨session, request, id, reception, index, isDelivered⟩ := stream
  obtain rfl : index = 0 := hindex
  obtain rfl : reception = _ := hreception
  rw [receive, receive, bind_assoc, bind_assoc]
  congr 1
  funext r
  obtain ⟨session, fault | _ | chunk⟩ := r
  · change failed _ _ >>= next = failed _ _ >>= next
    rw [failed, failed, bind_assoc, bind_assoc]
    congr 1
    funext _
    apply hnext
  · change failed _ _ >>= next = failed _ _ >>= next
    rw [failed, failed, bind_assoc, bind_assoc]
    congr 1
    funext _
    apply hnext
  · rfl

end Stream

end Client

/-- A transfer through a buffer with leftovers comes to the same. -/
theorem Transfer.run_through {stream : Client.Stream} (hfresh : stream.Fresh capacity)
    (h : buffer.capacity = capacity) (x : Transfer ω) :
  run p { x with stream := stream.through buffer } >>= close p
    = run p { x with stream } >>= close p
  := by
  obtain ⟨-, hreception, hindex, hdelivered⟩ := hfresh
  obtain ⟨count, hcount⟩ : ∃ count, UInt64.size = count + 1 := ⟨UInt64.size - 1, rfl⟩
  have hrun : ∀ through : Client.Stream, through.isDelivered = false →
      run p { x with stream := through } >>= close p
        = through.receive p.transport >>= x.finish p count := by
    intro through hdelivered
    rw [run, hcount, pump_succ, bind_assoc, Client.Stream.next, hdelivered]
    rfl
  rw [hrun (stream.through buffer) hdelivered, hrun stream hdelivered]
  apply Client.Stream.receive_through hreception hindex h
  intro session fault
  rfl

/-! ### Cycles -/

namespace Worker

/-- Checks for an update, with a buffer with leftovers. -/
def checkIn (p : Platform σ ω) (worker : Worker ω) (buffer : Buffer) :
    Act σ (Worker ω × CycleResult) := do
  match Request.get worker.config.serverHost worker.config.metadataPath with
  | .error fault => return (worker, .failed fault)
  | .ok request =>
    let (client, result) ← worker.client.fetchIn p.transport request buffer
    let worker := { worker with client }
    match result with
    | .error fault => return (worker, .failed fault)
    | .ok body => worker.readMetadata p body

/-- Streams the announced image into the slot, through a buffer with leftovers. -/
def streamImageIn (p : Platform σ ω) (worker : Worker ω) (buffer : Buffer) :
    Act σ (Worker ω × Except Fault CycleResult) :=
  match Request.get worker.config.serverHost worker.config.firmwarePath with
  | .error fault => return (worker, .error fault)
  | .ok request => worker.client.openStream p.transport request buffer.capacity >>= fun
    | (client, .error fault) => return ({ worker with client }, .error fault)
    | (client, .ok stream) =>
      Transfer.run p { stream := stream.through buffer, programmer := worker.programmer,
                       status := worker.status }
        >>= Transfer.close p >>= worker.landed p client stream

/-- Downloads the announced image and installs it, through a buffer with leftovers. -/
def downloadIn (p : Platform σ ω) (worker : Worker ω) (buffer : Buffer) :
    Act σ (Worker ω × CycleResult) := do
  match ← worker.streamImageIn p buffer with
  | (worker, .error fault) => return (← worker.ended.giveUp p, .failed fault)
  | (worker, .ok (.installed done)) =>
    return (← worker.ended.applyInstallation p done, .installed done)
  | (worker, .ok result) => return (worker.ended, result)

/-- Runs what a trigger asks for, with buffers with leftovers. -/
def actIn (p : Platform σ ω) (worker : Worker ω) (buffers : Buffers) (trigger : Trigger) :
    Act σ (Worker ω × CycleResult) := do
  report origin .info (startText trigger)
  match trigger with
  | .check => worker.checkIn p buffers.metadata
  | .download => worker.downloadIn p buffers.firmware

/-- Runs one cycle for a trigger, with buffers with leftovers. -/
def processIn (p : Platform σ ω) (worker : Worker ω) (buffers : Buffers) (trigger : Trigger) :
    Act σ (Worker ω × CycleResult) := do
  let (worker, result) ← worker.actIn p buffers trigger
  worker.rearm p trigger
  reportAll (resultNotes result)
  return ((worker.complete trigger).record result, result)

variable {worker : Worker ω}

theorem checkIn_eq (h : buffer.capacity = worker.options.metadataBuffer) :
  worker.checkIn p buffer = worker.check p
  := by
  unfold checkIn
  simp only [Client.fetchIn_eq _ _ h]
  rfl

theorem streamImageIn_eq (h : buffer.capacity = worker.options.firmwareBuffer) :
  worker.streamImageIn p buffer = worker.streamImage p
  := by
  unfold streamImageIn
  cases hrequest : Request.get worker.config.serverHost worker.config.firmwarePath with
  | error fault => rw [streamImage, hrequest]
  | ok request =>
      rw [streamImage_eq worker hrequest, h]
      apply Act.bind_congr_of (Client.openStream_fresh worker.client request _)
      rintro ⟨client, fault | stream⟩ hfresh
      · rfl
      · dsimp only
        rw [Transfer.run_through (hfresh stream rfl) h
          { stream, programmer := worker.programmer, status := worker.status }]

/-- What earlier cycles have left in the buffers does not matter to a cycle. -/
theorem processIn_eq {buffers : Buffers} (h : buffers.Fit worker.options) (trigger : Trigger) :
  worker.processIn p buffers trigger = worker.process p trigger
  := by
  have hact : worker.actIn p buffers trigger = worker.act p trigger := by
    cases trigger with
    | check => rw [actIn, act, checkIn_eq h.1]
    | download =>
        rw [actIn, downloadIn, streamImageIn_eq h.2]
        rfl
  rw [processIn, process, hact]

end Worker

end FirmwareUpdate
