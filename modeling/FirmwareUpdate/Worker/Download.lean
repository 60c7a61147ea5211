import FirmwareUpdate.Worker.Basic

/-!
# Downloading an image

The announced image is streamed from the server into the programmer and committed when all of
it has arrived. Writing starts with the first bytes, so that a slot is not erased for a server
that does not answer. Whatever fails, nothing is left open.
-/

namespace FirmwareUpdate

variable {σ ω : Type}

/-- An image on its way from the server to the slot, and the number of its bytes so far. The
status tells from the start of writing on that an update is in progress. -/
structure Transfer (ω : Type) where
  stream : Client.Stream
  programmer : Programmer ω
  status : Status
  size : Nat := 0
  isStarted : Bool := false

namespace Transfer

/-- Starts to write, unless that has been done. A session that is still open is given up
first. -/
def begin (p : Platform σ ω) (x : Transfer ω) : Act σ (Transfer ω × Outcome) := do
  if x.isStarted then return (x, .ok ())
  else
    let (programmer, outcome) ←
      if x.programmer.isOpen then
        report Worker.origin .warn "Stale programming session found, aborting it first"
        x.programmer.abort p.slots
      else pure (x.programmer, .ok ())
    match outcome with
    | .error fault => return ({ x with programmer }, .error fault)
    | .ok () =>
      match ← programmer.begin p.slots with
      | (programmer, .error fault) => return ({ x with programmer }, .error fault)
      | (programmer, .ok ()) =>
        let status := { x.status with inProgress := true }
        return ({ x with programmer, status, isStarted := true }, .ok ())

/-- Writes bytes of the image. If that fails, the image is given up. -/
def store (p : Platform σ ω) (x : Transfer ω) (bytes : Bytes) :
    Act σ (Transfer ω × Outcome) := do
  match ← x.begin p with
  | (x, .error fault) => return (x, .error fault)
  | (x, .ok ()) =>
    let x := { x with size := x.size + bytes.length }
    match ← x.programmer.write p.slots bytes with
    | (programmer, .ok ()) => return ({ x with programmer }, .ok ())
    | (programmer, .error fault) =>
      report Worker.origin .error
        s!"Flash write failed ({fault.message}), aborting firmware update!"
      match ← programmer.abort p.slots with
      | (programmer, .error later) => return ({ x with programmer }, .error later)
      | (programmer, .ok ()) => return ({ x with programmer }, .error fault)

/-- Moves the image from the server to the slot, at most `count` fragments of it. -/
def pump (p : Platform σ ω) : (count : Nat) → Transfer ω → Act σ (Transfer ω × Outcome)
  | 0, x => return (x, .ok ())
  | count + 1, x => do
    let (stream, fragment) ← x.stream.next p.transport
    let x := { x with stream }
    match fragment with
    | .error fault => return (x, .error fault)
    | .ok (some (.data bytes)) =>
      match ← x.store p bytes with
      | (x, .error fault) => return (x, .error fault)
      | (x, .ok ()) => pump p count x
    | .ok (some .finished) | .ok none => return (x, .ok ())

/-- Moves the whole image. Every fragment has at least one of the fewer than 2⁶⁴ bytes that a
response can declare. -/
def run (p : Platform σ ω) (x : Transfer ω) : Act σ (Transfer ω × Outcome) :=
  x.pump p UInt64.size

/-- Installs the image that has arrived, unless it is empty. -/
def complete (p : Platform σ ω) (x : Transfer ω) :
    Act σ (Programmer ω × Except Fault CycleResult) := do
  report Worker.origin .debug
    s!"All firmware data received ({x.size} bytes), closing session"
  if x.size = 0 then
    report Worker.origin .error "Something's not OK - the new firmware image is empty!"
    if x.programmer.isOpen then
      match ← x.programmer.abort p.slots with
      | (programmer, .error fault) => return (programmer, .error fault)
      | (programmer, .ok ()) => return (programmer, .ok .emptyImage)
    else return (x.programmer, .ok .emptyImage)
  else
    match ← x.programmer.commit p.slots with
    | (programmer, .error fault) => return (programmer, .error fault)
    | (programmer, .ok done) => return (programmer, .ok (.installed done))

end Transfer

namespace Worker

/-- Streams the announced image into the slot and installs it. -/
def streamImage (p : Platform σ ω) (worker : Worker ω) :
    Act σ (Worker ω × Except Fault CycleResult) := do
  match Request.get worker.config.serverHost worker.config.firmwarePath with
  | .error fault => return (worker, .error fault)
  | .ok request =>
    match ← worker.client.openStream p.transport request worker.options.firmwareBuffer with
    | (client, .error fault) => return ({ worker with client }, .error fault)
    | (client, .ok stream) =>
      let (x, outcome) ←
        Transfer.run p { stream, programmer := worker.programmer, status := worker.status }
      let session ← x.stream.close p.transport
      let worker := { worker with client := { client with session }, status := x.status }
      match outcome with
      | .error fault => return ({ worker with programmer := x.programmer }, .error fault)
      | .ok () =>
        let (programmer, result) ← x.complete p
        return ({ worker with programmer }, result)

/-- The worker after a download has ended in one way or another. -/
def ended (worker : Worker ω) : Worker ω :=
  { worker with status := { worker.status with inProgress := false } }

/-- Gives up an image that is still open after a failure. -/
def giveUp (p : Platform σ ω) (worker : Worker ω) : Act σ (Worker ω) := do
  if worker.programmer.isOpen then
    let (programmer, _) ← worker.programmer.abort p.slots
    return { worker with programmer }
  else return worker

/-- What follows an installation: the status tells it, and the device restarts if the
configuration says so. -/
def applyInstallation (p : Platform σ ω) (worker : Worker ω) (done : Installation) :
    Act σ (Worker ω) := do
  report origin .info
    (s!"New firmware installed to '{done.slot}' ({done.size} bytes, "
      ++ s!"sha256 {done.digest})")
  if worker.config.autoReboot then
    let delay := worker.options.rebootDelay
    report origin .info s!"Automatic re-boot in {delay.seconds} seconds - goodbye!..."
    perform (p.restart delay) fun _ => .restart delay
  return { worker with status := { worker.status with installed := true } }

/-- Downloads the announced image and installs it. -/
def download (p : Platform σ ω) (worker : Worker ω) : Act σ (Worker ω × CycleResult) := do
  match ← worker.streamImage p with
  | (worker, .error fault) => return (← worker.ended.giveUp p, .failed fault)
  | (worker, .ok (.installed done)) =>
    return (← worker.ended.applyInstallation p done, .installed done)
  | (worker, .ok result) => return (worker.ended, result)

end Worker

end FirmwareUpdate
