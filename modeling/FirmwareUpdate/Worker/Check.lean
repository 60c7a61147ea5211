import FirmwareUpdate.Worker.Basic

/-!
# Checking for an update

The metadata are fetched and compared with the running version. An announced interval always
takes effect; an announced path does so only together with a version. If the version differs
from the running one, a download is requested. Whatever changes the configuration raises a flag,
and when all has been read, the observer is told if the flag is up.
-/

namespace FirmwareUpdate

variable {σ ω : Type}

/-- What is reported about an announced interval: a change. -/
def Metadata.intervalNotes (m : Metadata) (config : Config) : List Note :=
  let current := config.pollingInterval
  match m.interval with
  | some interval =>
    if interval = current then []
    else
      [⟨Worker.origin, .info,
        s!"Polling interval changed from {current} s to {interval} s"⟩]
  | none => []

/-- What is reported about the version and the path. -/
def Metadata.verdictNotes (m : Metadata) (running : UInt32) : List Note :=
  match m.version, m.file with
  | none, _ =>
    [⟨Worker.origin, .warn, "Firmware version not provided, skipping firmware update"⟩]
  | some _, none =>
    [⟨Worker.origin, .warn, "Firmware file name not provided, skipping firmware update"⟩]
  | some version, some file =>
    if version = running then
      [⟨Worker.origin, .info, s!"Firmware is up to date (version {version})"⟩]
    else
      [⟨Worker.origin, .info,
        s!"Firmware update available: version {version} at '{file.text}' "
          ++ s!"(running version {running})"⟩]

namespace Worker

/-- Takes over an announced interval. The flag is raised if it is another one. -/
def takeInterval (worker : Worker ω) (m : Metadata) : Worker ω × Bool :=
  match m.interval with
  | none => (worker, false)
  | some interval =>
    if interval = worker.config.pollingInterval then (worker, false)
    else ({ worker with config := { worker.config with pollingInterval := interval } }, true)

/-- Takes over a path. The flag is raised if it is another one, and else stays as it is. -/
def takePath (worker : Worker ω) (path : String) (changed : Bool) : Worker ω × Bool :=
  if worker.config.firmwarePath = path then (worker, changed)
  else ({ worker with config := { worker.config with firmwarePath := path } }, true)

/-- Takes over an announced path, and requests a download if the version is not the running one.
Metadata without a version or without a path leave all as it is, and the flag with it. -/
def evaluate (worker : Worker ω) (m : Metadata) (changed : Bool) : Worker ω × CycleResult × Bool :=
  match m.version with
  | none => (worker, .metadataIncomplete, changed)
  | some version =>
    match m.file with
    | none => (worker, .metadataIncomplete, changed)
    | some file =>
      let (worker, changed) := worker.takePath file.text changed
      if version = worker.runningVersion then (worker, .upToDate version, changed)
      else
        ({ worker with triggers := worker.triggers.request .download },
          .updateAvailable version worker.config.firmwarePath, changed)

/-- Reads the metadata in a file. The configuration is shown to the observer if the flag is up. -/
def readMetadata (p : Platform σ ω) (worker : Worker ω) (body : Bytes) :
    Act σ (Worker ω × CycleResult) := do
  let m := Metadata.parse body
  reportAll (Metadata.parseNotes body)
  reportAll (m.intervalNotes worker.config)
  let (worker, changed) := worker.takeInterval m
  reportAll (m.verdictNotes worker.runningVersion)
  let (worker, result, changed) := worker.evaluate m changed
  if changed then
    if let some observe := p.observer then
      perform (observe worker.config) fun _ => .observe worker.config
  return (worker, result)

/-- Fetches the metadata and acts on them. -/
def check (p : Platform σ ω) (worker : Worker ω) : Act σ (Worker ω × CycleResult) := do
  match Request.get worker.config.serverHost worker.config.metadataPath with
  | .error fault => return (worker, .failed fault)
  | .ok request =>
    let (client, result) ←
      worker.client.fetch p.transport request worker.options.metadataBuffer
    let worker := { worker with client }
    match result with
    | .error fault => return (worker, .failed fault)
    | .ok body => worker.readMetadata p body

end Worker

end FirmwareUpdate
