import FirmwareUpdate.Pem
import FirmwareUpdate.Session.Transport

/-!
# A scripted peer

A peer for trying the updater out without a network. What it does on a connection is laid down
beforehand; once the laid down reads are used up, it closes the connection.
-/

namespace FirmwareUpdate.Bench

/-- What a peer does at a read. -/
inductive ReadStep
  | data (bytes : Bytes)
  | retry
  | fail (message : String)
deriving DecidableEq, Repr

/-- What a peer does on a connection: its reads, how often the handshake has to be tried
again, and how many bytes it accepts at once. -/
structure Connection where
  reads : List ReadStep := []
  handshakeRetries : Nat := 0
  writeLimit : Option Nat := none
deriving DecidableEq, Repr

namespace Connection

/-- The reads that give the given chunks; empty ones are left out. -/
def chunks (chunks : List Bytes) : List ReadStep :=
  (chunks.filter (!·.isEmpty)).map .data

/-- The reads that give `raw` in pieces of the given size. -/
def split (raw : Bytes) (size : Nat) : List ReadStep :=
  chunks (Text.rows (max size 1) raw)

/-- The reads that give `raw` in pieces of the given sizes, and what is left in one more. -/
def sized (raw : Bytes) : (sizes : List Nat) → List ReadStep
  | [] => chunks [raw]
  | size :: more => chunks [raw.take size] ++ sized (raw.drop size) more

end Connection

/-- A successful response with the given body. -/
def okResponse (body : Bytes) : Bytes :=
  utf8 s!"HTTP/1.1 200 OK\r\nContent-Length: {body.length}\r\n\r\n" ++ body

/-- A connection that is open, and the bytes that have been sent on it. -/
structure LiveConnection where
  script : Connection
  sent : Bytes := []
deriving DecidableEq, Repr

/-- A peer, the connections that it will accept, and what it has seen. -/
structure Peer where
  certificate : Bytes
  isChainValid : Bool := true
  queue : List Connection := []
  live : Option LiveConnection := none
  requests : List String := []
  opens : Nat := 0
  closes : Nat := 0
  configurations : Nat := 0
  unread : Nat := 0
deriving DecidableEq, Repr

namespace Peer

/-- The peer that presents the certificate in a PEM text, or an empty one. -/
def ofPem (pem : String) : Peer :=
  { certificate := match Pem.decode pem.toList with
      | .ok block => block.content
      | .error _ => [] }

/-- The peer with one more connection to accept. -/
def push (peer : Peer) (connection : Connection) : Peer :=
  { peer with queue := peer.queue ++ [connection] }

/-- Counts a configuration. -/
def configure (peer : Peer) : Outcome × Peer :=
  (.ok (), { peer with configurations := peer.configurations + 1 })

/-- Accepts a connection, if one is laid down. -/
def dial (peer : Peer) : Outcome × Peer :=
  let peer := { peer with opens := peer.opens + 1 }
  match peer.queue with
  | [] => (.error (.transport "connection refused"), peer)
  | script :: queue => (.ok (), { peer with queue, live := some { script } })

/-- Goes on with the handshake. -/
def handshake (peer : Peer) : Progress Unit × Peer :=
  match peer.live with
  | none => (.failed "not connected", peer)
  | some live =>
    match live.script.handshakeRetries with
    | 0 => (.ready (), peer)
    | n + 1 =>
      let script := { live.script with handshakeRetries := n }
      (.retry ⟨0⟩, { peer with live := some { live with script } })

/-- What the check of the certificates comes to. -/
def verifyChain (peer : Peer) : Outcome :=
  if peer.isChainValid then .ok ()
  else .error (.transport "certificate chain verification failed")

/-- Accepts bytes. -/
def send (peer : Peer) (data : Bytes) : Progress Nat × Peer :=
  match peer.live with
  | none => (.failed "not connected", peer)
  | some live =>
    let n := min (live.script.writeLimit.getD data.length) data.length
    (.ready n, { peer with live := some { live with sent := live.sent ++ data.take n } })

/-- Gives the bytes of the next read, at most `capacity` of them. -/
def receive (peer : Peer) (capacity : Nat) : Progress Bytes × Peer :=
  match peer.live with
  | none => (.failed "not connected", peer)
  | some live =>
    let after (reads : List ReadStep) :=
      { peer with live := some { live with script := { live.script with reads } } }
    match live.script.reads with
    | [] => (.ready [], peer)
    | .retry :: more => (.retry ⟨0⟩, after more)
    | .fail message :: more => (.failed message, after more)
    | .data bytes :: more =>
      if capacity < bytes.length then
        (.ready (bytes.take capacity), after (.data (bytes.drop capacity) :: more))
      else (.ready bytes, after more)

/-- Closes the open connection, if there is one, and notes what was sent on it. -/
def hangUp (peer : Peer) : Peer :=
  match peer.live with
  | none => peer
  | some live =>
    { peer with
      live := none
      closes := peer.closes + 1
      unread := live.script.reads.length
      requests :=
        if live.sent.isEmpty then peer.requests
        else peer.requests ++ [String.ofList (Utf8.decodeLossy live.sent)] }

end Peer

end FirmwareUpdate.Bench
