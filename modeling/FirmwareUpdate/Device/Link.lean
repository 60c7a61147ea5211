import FirmwareUpdate.Device.Kit
import FirmwareUpdate.Session.Transport

/-!
# The connection of a device

The transport on a board. At most one connection of the kit is open; it is freed before the
next one is opened, and with the link.
-/

namespace FirmwareUpdate.Device.Link

variable {κ : Type} (kit : Kit κ)

/-- Whether a text has a NUL character, at which the kit would take it to end. -/
def holdsNul (text : String) : Bool :=
  text.toList.contains '\x00'

/-- The code of the kit when it has to wait for the peer. -/
def wantRead : Int := -26880

/-- The code of the kit when it has to wait for room to write. -/
def wantWrite : Int := -26752

/-- The code of the kit when the peer has closed the connection. -/
def closedByPeer : Int := -30848

/-- What a code of sending or receiving means: a number of bytes, or a fault. Of a fault only
the lower 32 bits count, and it is shown with its sign turned, in as many bits. -/
def progressOf (code : Int) : Progress Nat :=
  let fault := code.bmod UInt32.size
  if 0 ≤ code then .ready code.toNat
  else if fault = wantRead ∨ fault = wantWrite then .retry ⟨0⟩
  else if fault = closedByPeer then .ready 0
  else
    let shown := (-fault % UInt32.size).toNat
    .failed s!"mbedtls error -0x{Text.padded 16 4 shown}"

/-- The answer without a connection. -/
def unconnected {α : Type} : Progress α :=
  .failed "not connected"

/-- Frees the connection, if one is open. -/
def close : Op (Board κ) Unit := do
  if let some connection := (← theLink).connection then
    ask kit (.free connection)
    changeLink fun link => { link with connection := none }

/-- Keeps the certificate of the authority for the connections to come. -/
def configure (identity : Identity) : Op (Board κ) Outcome := do
  let certificate := identity.rootCertificate
  if holdsNul certificate then
    return .error (.invalidArgument "root CA contains a NUL byte")
  else
    changeLink fun link => { link with authority := some (utf8 certificate ++ [0]) }
    report "tls" .debug
      s!"TLS client configured with {certificate.utf8ByteSize} byte root CA"
    return .ok ()

/-- Opens a connection. It is established only by the handshake. -/
def dial (host : String) (port : UInt16) : Op (Board κ) Outcome := do
  if (← theLink).authority.isNone then
    return .error (.transport "TLS client not initialized")
  else
    close kit
    if holdsNul host then return .error (.invalidArgument "host contains a NUL byte")
    else
      let connection ← ask kit .newConnection
      changeLink fun link => { link with host, port, connection }
      if Option.isNone connection then
        report "tls" .error "esp_tls_init failed"
        return .error .outOfMemory
      else return .ok ()

/-- Goes on with the handshake, which may take the given number of milliseconds. -/
def handshake (limit : UInt32) : Op (Board κ) (Progress Unit) := do
  let link ← theLink
  match link.connection with
  | none => return unconnected
  | some connection =>
    let endpoint : Endpoint :=
      ⟨link.host, link.port, link.authority.getD [], (limit.toNat : Int).bmod UInt32.size⟩
    let code : Int ← ask kit (.establish connection endpoint)
    if code = 1 then return .ready ()
    else if code = 0 then return .retry ⟨0⟩
    else return .failed s!"connection to {link.host}:{link.port} failed"

/-- The open connection, if the handshake has got far enough to look into it. -/
def context : Op (Board κ) (Option Handle) := do
  match (← theLink).connection with
  | none => return none
  | some connection =>
    let isThere : Bool ← ask kit (.context connection)
    return if isThere then some connection else none

/-- Looks up what the kit has made of the server's certificates. -/
def verifyChain : Op (Board κ) Outcome := do
  match ← context kit with
  | none => return .error (.transport "no TLS context")
  | some connection =>
    let flags : UInt32 ← ask kit (.verdict connection)
    if flags = 0 then return .ok ()
    else
      report "tls" .error
        s!"Server certificate verification failed, flags 0x{Text.padded 16 8 flags.toNat}"
      return .error (.transport
        s!"certificate verification failed (0x{Text.padded 16 0 flags.toNat})")

/-- The certificate that the server has presented. -/
def peerCertificate : Op (Board κ) (Option Bytes) := do
  match ← context kit with
  | none => return none
  | some connection => ask kit (.peerCertificate connection)

/-- Sends bytes. -/
def send (data : Bytes) : Op (Board κ) (Progress Nat) := do
  match (← theLink).connection with
  | none => return unconnected
  | some connection => return progressOf (← ask kit (.send connection data))

/-- The window after bytes have been put at its front. -/
def fill (window bytes : Bytes) : Bytes :=
  bytes ++ window.drop bytes.length

/-- The first bytes of the window; there are zeros behind what has been put there. -/
def look (window : Bytes) (size : Nat) : Bytes :=
  window.take size ++ List.replicate (size - window.length) 0

/-- Receives bytes. -/
def receive (capacity : Nat) : Op (Board κ) (Progress Bytes) := do
  match (← theLink).connection with
  | none => return unconnected
  | some connection =>
    let (code, bytes) : Int × Bytes ← ask kit (.receive connection capacity)
    changeLink fun link => { link with window := fill link.window bytes }
    match progressOf code with
    | .ready size => return .ready (look (← theLink).window size)
    | .retry spent => return .retry spent
    | .failed message => return .failed message

/-- Frees the connection and forgets the certificate of the authority. -/
def reset : Op (Board κ) Unit := do
  close kit
  changeLink fun link => { link with authority := none }

/-- The transport on a board, where a handshake may take the given number of milliseconds. -/
def transport (limit : UInt32) : Transport (Board κ) where
  configure := configure
  dial := dial kit
  handshake := handshake kit limit
  verifyChain := verifyChain kit
  peerCertificate := peerCertificate kit
  send := send kit
  receive := receive kit
  hangUp := close kit
  reset := reset kit

end FirmwareUpdate.Device.Link
