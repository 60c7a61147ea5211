import FirmwareUpdate.Bench.Rig
import FirmwareUpdate.Device.Timer

/-!
# A scripted chip

A kit for trying the device's software out without a device. It keeps what the software can
see again later: the images, the stored record, the selected slot, the state of the radio.
Cues can be laid down for any query, under its name; each query of that name takes one of them,
and one that fails because of its cue has no effect.
-/

namespace FirmwareUpdate.Bench

open Device

/-- What is laid down for a query: a code, a failure or something that is missing, or a truth
value. -/
inductive Cue
  | code (n : Int)
  | text (message : String)
  | flag (value : Bool)
deriving DecidableEq, Repr

/-- The state of a chip. Each of the connections is the list of the reads that it will give;
`lastHandle` is the handle that was given out last. The images stand in the order in which
they were opened first. -/
structure Chip where
  cues : Queues (Option Cue) := []
  boot : String := "factory"
  peer : Bytes := []
  connections : List (List Bytes) := []
  reads : List Bytes := []
  lastConnection : Handle := 0
  sent : Bytes := []
  lastImage : Handle := 0
  writers : List (Handle × String) := []
  images : List (String × Bytes) := []
  stored : Option Bytes := none
  writes : List (String × Bytes) := []
  armed : Option Duration := none
  isStarted : Bool := false
  hasJoined : Bool := false

namespace Chip

/-- The labels of the slots. -/
def labels : List String := ["factory", "ota_0", "ota_1"]

/-- The number of bytes of a label that are kept. -/
def labelSize : Nat := 16

/-- The address that the radio gets if none is laid down. -/
def defaultAddress : UInt32 := 0xC0A80002

/-- The next cue of a name. -/
def nextCue (name : String) : StateM Chip (Option Cue) := fun chip =>
  let (entry, cues) := chip.cues.take name
  (entry.join, { chip with cues })

/-- Whether a cue says that something is missing. -/
def isMissing : Option Cue → Bool
  | some (.text _) => true
  | _ => false

/-- A service, which fails or takes effect. -/
def service (cue : Option Cue) (effect : Chip → Chip) : StateM Chip (Except String Unit) :=
  match cue with
  | some (.text message) => return .error message
  | _ => do
    modify effect
    return .ok ()

/-- A call that answers with a code, and takes effect only if that is zero. -/
def coded (cue : Option Cue) (effect : Chip → Chip) : StateM Chip Int :=
  match cue with
  | some (.code n) => do
    if n = 0 then modify effect
    return n
  | _ => do
    modify effect
    return 0

/-- A question about the radio. -/
def asked (cue : Option Cue) (answer : Chip → Bool) : StateM Chip (Except String Bool) := do
  match cue with
  | some (.text message) => return .error message
  | some (.flag value) => return .ok value
  | _ => return .ok (answer (← get))

/-- The chip with an image changed. -/
def changeImage (label : String) (f : Bytes → Bytes) (chip : Chip) : Chip :=
  { chip with images := chip.images.map fun (other, image) =>
      (other, if other = label then f image else image) }

/-- The chip with an empty image opened for writing. -/
def openImage (label : String) (chip : Chip) : Chip :=
  let image := chip.lastImage + 1
  let images :=
    if chip.images.any (·.1 == label) then chip.images else chip.images ++ [(label, [])]
  { chip with lastImage := image, writers := (image, label) :: chip.writers, images }
    |>.changeImage label fun _ => []

/-- The chip with data written to an image. -/
def append (image : Handle) (data : Bytes) (chip : Chip) : Chip :=
  match chip.writers.lookup image with
  | some label => chip.changeImage label (· ++ data)
  | none => chip

/-- The number of bytes that are sent, unless the cue is a fault. -/
def sendCode (cue : Option Cue) (data : Bytes) : Int :=
  match cue with
  | some (.code n) => min n data.length
  | _ => data.length

/-- The next read of the connection, at most `capacity` bytes of it. -/
def nextRead (capacity : Nat) : StateM Chip Bytes := fun chip =>
  match chip.reads with
  | [] => ([], chip)
  | data :: more =>
    if capacity < data.length then
      (data.take capacity, { chip with reads := data.drop capacity :: more })
    else (data, { chip with reads := more })

/-- The answer to a query for which `cue` is laid down. -/
def answer (cue : Option Cue) : (query : Query) → StateM Chip query.Answer
  | .peripherals | .eventLoop | .storagePartition | .timerService | .openStorage _
  | .newTimer | .newRadio | .configure _ | .newStation | .awaitAddress => service cue id
  | .readRecord _ capacity => do
    match cue, (← get).stored with
    | some (.text message), _ => return .error message
    | _, some text =>
      if capacity < text.length then return .error "ESP_ERR_NVS_INVALID_LENGTH"
      else return .ok (some text)
    | _, none => return .ok none
  | .writeRecord path record =>
    service cue fun chip =>
      { chip with stored := some record, writes := chip.writes ++ [(path, record)] }
  | .newConnection => do
    if isMissing cue then return none
    else
      modify fun chip => { chip with
        lastConnection := chip.lastConnection + 1
        reads := chip.connections.head?.getD []
        connections := chip.connections.tail }
      return some (← get).lastConnection
  | .establish _ _ => do
    match cue with
    | some (.code n) => return n
    | _ => return (1 : Int)
  | .context _ => return !isMissing cue
  | .verdict _ => do
    match cue with
    | some (.code n) => return UInt32.ofInt n
    | _ => return (0 : UInt32)
  | .peerCertificate _ => do
    if isMissing cue then return none else return some (← get).peer
  | .send _ data => do
    let code := sendCode cue data
    modify fun chip => { chip with sent := chip.sent ++ data.take code.toNat }
    return code
  | .receive _ capacity => do
    match cue with
    | some (.code n) => return (n, [])
    | _ =>
      let data ← nextRead capacity
      return ((data.length : Int), data)
  | .free _ => modify fun chip => { chip with reads := [] }
  | .bootLabel => do
    if isMissing cue then return none
    else return some ((utf8 (← get).boot).take labelSize)
  | .find label => return !isMissing cue && labels.contains label
  | .beginImage label => do
    let code ← coded cue (openImage label)
    return (code, (← get).lastImage)
  | .writeImage image data => coded cue (append image data)
  | .endImage _ | .abortImage _ | .disablePowerSave => coded cue id
  | .select label => coded cue fun chip => { chip with boot := label }
  | .cancelTimer => service cue fun chip => { chip with armed := none }
  | .startTimer period => service cue fun chip => { chip with armed := some period }
  | .isStarted => asked cue isStarted
  | .start => service cue fun chip => { chip with isStarted := true }
  | .stop => service cue fun chip => { chip with isStarted := false, hasJoined := false }
  | .join => service cue fun chip => { chip with hasJoined := true }
  | .isUp => asked cue fun chip => chip.isStarted && chip.hasJoined
  | .address => do
    match cue with
    | some (.text message) => return .error message
    | some (.code n) => return .ok (UInt32.ofInt n)
    | _ => return .ok defaultAddress
  | .delay _ | .restart => return ()

/-- The chip as a kit. -/
def kit : Kit Chip := fun query => do
  answer (← nextCue query.name) query

/-- Lets the timer elapse, and says whether it was armed. -/
def elapse : Op (Board Chip) Bool := do
  let chip := (← get).state.kit
  if chip.armed.isNone then return false
  else
    .onState fun board => ((), { board with kit := { chip with armed := none } })
    reportAll [dueNote]
    return true

end Chip

end FirmwareUpdate.Bench
