import FirmwareUpdate.Bench.Peer
import FirmwareUpdate.Bench.Slots
import FirmwareUpdate.Worker.Basic

/-!
# A test rig

A platform made of a scripted peer, slots in memory, a timer that only notes how it is armed,
and a device that only notes its restarts. Any call of it can be disturbed: the disturbances
for a call are queued under its name, and each call takes one of them.
-/

namespace FirmwareUpdate.Bench

/-- What happens to a call instead of, or on top of, what it does by itself. -/
inductive Disturbance
  | fail (message : String)
  | retry
  | stall
  | ready (count : Nat)
  | limit (count : Nat)
  | noCertificate
  | certificate (bytes : Bytes)
deriving DecidableEq, Repr

/-- Queues by name. -/
abbrev Queues (α : Type) := List (String × List α)

/-- The first entry of a queue, and the queues without it. -/
def Queues.take {α : Type} (name : String) : Queues α → Option α × Queues α
  | [] => (none, [])
  | (other, queue) :: rest =>
    if other = name then
      match queue with
      | [] => (none, (other, []) :: rest)
      | first :: more => (some first, (other, more) :: rest)
    else
      let (found, rest) := take name rest
      (found, (other, queue) :: rest)

/-- The queues with more entries at the end of one of them. -/
def Queues.add {α : Type} (name : String) (entries : List α) : Queues α → Queues α
  | [] => [(name, entries)]
  | (other, queue) :: rest =>
    if other = name then (other, queue ++ entries) :: rest
    else (other, queue) :: add name entries rest

/-- The queues with the entries of other queues at the end. -/
def Queues.addAll {α : Type} (queues more : Queues α) : Queues α :=
  more.foldl (fun queues (name, entries) => queues.add name entries) queues

/-- The state of a rig. -/
structure Rig where
  peer : Peer
  slots : MemorySlots
  armed : Option Duration := none
  disarms : Nat := 0
  restarts : List Duration := []
  disturbances : Queues (Option Disturbance) := []
  ioTimeout : Duration := .ofSeconds 30

namespace Rig

variable {α : Type}

/-- The rig whose peer accepts one more connection. -/
def push (rig : Rig) (connection : Connection) : Rig :=
  { rig with peer := rig.peer.push connection }

/-- The rig whose peer presents certificates that hold or do not. -/
def setChainValid (rig : Rig) (isChainValid : Bool) : Rig :=
  { rig with peer := { rig.peer with isChainValid } }

/-- The rig whose slots refuse every image from now on. -/
def failFinish (rig : Rig) : Rig :=
  { rig with slots := { rig.slots with failsFinish := true } }

/-- The rig whose slots accept so many more writes. -/
def failWriteAfter (rig : Rig) (count : Nat) : Rig :=
  { rig with slots := { rig.slots with writesLeft := some count } }

/-- The rig with more disturbances. -/
def disturb (rig : Rig) (queues : Queues (Option Disturbance)) : Rig :=
  { rig with disturbances := rig.disturbances.addAll queues }

/-- The next disturbance of a call. -/
def disturbance (name : String) : Op Rig (Option Disturbance) := .onState fun rig =>
  let (entry, disturbances) := rig.disturbances.take name
  (entry.join, { rig with disturbances })

/-- What the peer does at a call. -/
def onPeer (f : Peer → α × Peer) : Op Rig α := .onState fun rig =>
  let (a, peer) := f rig.peer
  (a, { rig with peer })

/-- What the slots do at a call. -/
def onSlots (f : MemorySlots → α × MemorySlots) : Op Rig α := .onState fun rig =>
  let (a, slots) := f rig.slots
  (a, { rig with slots })

/-- A call that fails with a fault of the given kind when it is disturbed. -/
def failing (name : String) (kind : String → Fault) (op : Op Rig (Except Fault α)) :
    Op Rig (Except Fault α) := do
  match ← disturbance name with
  | some (.fail message) => return .error (kind message)
  | _ => op

/-- A call that does not block. Disturbed, it fails, asks to be tried again, or lets the time
for it go by; any other disturbance is given to the call. -/
def progressing (name : String) (op : Option Disturbance → Op Rig (Progress α)) :
    Op Rig (Progress α) := do
  match ← disturbance name with
  | some (.fail message) => return .failed message
  | some .retry => return .retry ⟨0⟩
  | some .stall => return .retry (← get).state.ioTimeout
  | other => op other

/-- The transport of a rig. -/
def transport : Transport Rig where
  configure _ := failing "initialize" .transport (onPeer Peer.configure)
  dial _ _ := failing "open" .transport (onPeer Peer.dial)
  handshake := progressing "handshake" fun _ => onPeer Peer.handshake
  verifyChain :=
    failing "verify_chain" .transport (onPeer fun peer => (peer.verifyChain, peer))
  peerCertificate := do
    match ← disturbance "peer_certificate" with
    | some .noCertificate => return none
    | some (.certificate bytes) => return some bytes
    | _ => return some (← get).state.peer.certificate
  send data := progressing "send" fun
    | some (.ready n) => return .ready n
    | some (.limit n) => onPeer (·.send (data.take n))
    | _ => onPeer (·.send data)
  receive capacity := progressing "recv" fun _ => onPeer (·.receive capacity)
  hangUp := onPeer fun peer => ((), peer.hangUp)
  reset := return ()

/-- The slots of a rig. -/
def slotTable : Slots Rig String where
  bootLabel := failing "boot_partition" .storageWrite (onSlots fun table => (.ok table.boot, table))
  openWriter label := failing "open_writer" .storageWrite (onSlots (·.openWriter label))
  write label data := failing "write" .storageWrite (onSlots (·.write label data))
  finish _ := failing "finish" .storageWrite (onSlots fun table => (table.finish, table))
  discard label := onSlots fun table => ((), table.discard label)
  select label :=
    failing "set_boot_partition" .storageWrite
      (onSlots fun table => (.ok (), table.select label))

/-- The timer of a rig. -/
def timer : CheckTimer Rig where
  arm period :=
    failing "arm" .invalidArgument
      (.onState fun rig => (.ok (), { rig with armed := some period }))
  disarm := .onState fun rig => ((), { rig with armed := none, disarms := rig.disarms + 1 })

/-- Notes a restart. -/
def restart (delay : Duration) : Op Rig Unit := do
  report "testing" .info s!"(test) restart requested in {delay.text}"
  .onState fun rig => ((), { rig with restarts := rig.restarts ++ [delay] })

/-- The rig as a platform. -/
def platform : Platform Rig String :=
  { transport, slots := slotTable, timer, restart, observer := some fun _ => return () }

/-- The rig as a platform whose configuration nobody observes. -/
def unobserved : Platform Rig String :=
  { platform with observer := none }

/-- Settings for runs that should not take long. -/
def quickOptions : Options where
  startupDelay := .ofMilliseconds 10
  rebootDelay := .ofMilliseconds 1
  ioTimeout := .ofSeconds 2

end Rig

end FirmwareUpdate.Bench
