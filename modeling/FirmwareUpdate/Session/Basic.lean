import FirmwareUpdate.Pin
import FirmwareUpdate.Session.Transport

/-!
# Sessions

A session holds at most one connection to one server. A connection counts as established only
after the handshake, the check of the certificate chain and the comparison of the peer's key
with the pin, in this order; requests are sent over established connections only. Whatever
goes wrong on a connection closes it, and the session can connect again.
-/

namespace FirmwareUpdate

variable {σ : Type}

/-- How far a session has come. The pin is read once, when the transport is configured. -/
inductive Stage
  | unconfigured
  | idle (pin : Pin)
  | connected (pin : Pin)
deriving DecidableEq, Repr

/-- A session with a server. -/
structure Session where
  identity : Identity
  timeout : Duration
  stage : Stage := .unconfigured
deriving DecidableEq, Repr

namespace Session

/-- The part that a session's notes come from. -/
def origin : String := "tls"

/-- Whether a connection is established. -/
def isConnected (session : Session) : Bool :=
  match session.stage with
  | .connected _ => true
  | _ => false

/-- The session for an identity, which has to be complete. -/
def start (identity : Identity) (timeout : Duration) : Except Fault Session :=
  if identity.host = "" then .error (.invalidArgument "TLS session: server host missing")
  else if identity.port = 0 then .error (.invalidArgument "TLS session: invalid server port")
  else if identity.rootCertificate = "" ∨ identity.peerCertificate = "" then
    .error (.invalidArgument "TLS session: certificate material missing")
  else .ok { identity, timeout }

/-- What is reported about a started session. -/
def startNote (identity : Identity) : Note :=
  ⟨origin, .debug, s!"TLS session created for server: {identity.host}"⟩

/-- Configures the transport, unless that has been done, and reads the pin. -/
def configure (t : Transport σ) (session : Session) : Act σ (Session × Except Fault Pin) := do
  match session.stage with
  | .idle pin | .connected pin => return (session, .ok pin)
  | .unconfigured =>
    match Pin.ofPem session.identity.peerCertificate with
    | .error fault => return (session, .error fault)
    | .ok pin =>
      let host := session.identity.host
      match ← perform (t.configure session.identity) .configure with
      | .error fault =>
        report origin .error s!"TLS init failed for '{host}': {fault.message}"
        perform t.reset fun _ => .reset
        return (session, .error fault)
      | .ok () =>
        report origin .debug s!"TLS context initialised for server: {host}"
        return ({ session with stage := .idle pin }, .ok pin)

/-- Makes sure of the peer on an open connection. -/
def establish (t : Transport σ) (session : Session) (pin : Pin) : Act σ Outcome := do
  match ← retry session.timeout "handshake" (perform t.handshake .handshake) with
  | .error fault => return .error fault
  | .ok () =>
    match ← perform t.verifyChain .verifyChain with
    | .error fault => return .error fault
    | .ok () =>
      match ← perform t.peerCertificate .peerCertificate with
      | none => return .error (.transport "peer certificate unavailable")
      | some certificate =>
        reportAll (pin.mismatchNotes certificate)
        return pin.verify certificate

/-- Closes the connection, if there is one. -/
def disconnect (t : Transport σ) (session : Session) : Act σ Session := do
  match session.stage with
  | .unconfigured => return session
  | .idle _ =>
    perform t.hangUp fun _ => .hangUp
    return session
  | .connected pin =>
    perform t.hangUp fun _ => .hangUp
    report origin .info s!"Ended TLS session with server '{session.identity.host}'"
    return { session with stage := .idle pin }

/-- Connects to the server. An earlier connection is closed first. -/
def connect (t : Transport σ) (session : Session) : Act σ (Session × Outcome) := do
  let session ←
    if session.isConnected then
      report origin .debug "TLS connect: dropping previous connection first"
      session.disconnect t
    else pure session
  match ← session.configure t with
  | (session, .error fault) => return (session, .error fault)
  | (session, .ok pin) =>
    let host := session.identity.host
    let port := session.identity.port
    match ← perform (t.dial host port) (.dial host port) with
    | .error fault =>
      report origin .error s!"Failed to connect to '{host}:{port}': {fault.message}"
      perform t.hangUp fun _ => .hangUp
      return (session, .error fault)
    | .ok () =>
      report origin .debug s!"TCP connection to '{host}' open, starting handshake"
      match ← session.establish t pin with
      | .error fault =>
        report origin .error s!"TLS connect to '{host}' failed: {fault.message}"
        perform t.hangUp fun _ => .hangUp
        return (session, .error fault)
      | .ok () =>
        report origin .info s!"Started valid TLS session with server '{host}'"
        return ({ session with stage := .connected pin }, .ok ())

/-- Sends bytes over the established connection until all have been taken. A failure closes
the connection. -/
def sendAll (t : Transport σ) (session : Session) (bytes : Bytes) : Act σ (Session × Outcome) := do
  if bytes.isEmpty then return (session, .ok ())
  else
    match ← retry session.timeout "write" (perform (t.send bytes) (.send bytes)) with
    | .error fault =>
      report origin .error s!"TLS write failed, disconnecting: {fault.message}"
      return (← session.disconnect t, .error fault)
    | .ok 0 => return (← session.disconnect t, .error (.transport "write: connection closed"))
    | .ok (n + 1) =>
      let rest := bytes.drop (n + 1)
      if !rest.isEmpty then
        report origin .debug
          s!"TLS partial write: {n + 1} bytes written, {rest.length} remaining"
      session.sendAll t rest
termination_by bytes.length
decreasing_by
  have : bytes ≠ [] := by rintro rfl; simp_all
  have := List.length_pos_iff.mpr this
  simp only [List.length_drop]
  omega

/-- Sends a whole request, if a connection is established. -/
def ask (t : Transport σ) (session : Session) (request : Bytes) : Act σ (Session × Outcome) := do
  if session.isConnected then session.sendAll t request
  else return (session, .error (.sessionState .notConnected))

/-- Bytes of a response that arrived together. -/
structure Chunk where
  bytes : Bytes
  bytes_ne : bytes ≠ []

/-- The next bytes of the response, at most `capacity` of them. There are none once the
connection has been closed, be it by the peer or by a failure; `index` counts the chunks
before. -/
def readChunk (t : Transport σ) (session : Session) (capacity index : Nat) :
    Act σ (Session × Except Fault (Option Chunk)) := do
  if session.isConnected then
    match ← retry session.timeout "read" (perform (t.receive capacity) (.receive capacity)) with
    | .error fault =>
      report origin .error s!"TLS read failed, disconnecting: {fault.message}"
      return (← session.disconnect t, .error fault)
    | .ok [] =>
      report origin .debug "TLS read: EOF"
      return (← session.disconnect t, .ok none)
    | .ok (b :: rest) =>
      report origin .trace s!"TLS read: chunk {index} with {rest.length + 1} bytes"
      return (session, .ok (some ⟨b :: rest, List.cons_ne_nil b rest⟩))
  else return (session, .ok none)

/-- Closes the connection, if one is established. -/
def finish (t : Transport σ) (session : Session) : Act σ Session := do
  if session.isConnected then session.disconnect t else return session

/-- Reads the response chunk by chunk, at most `count` of them, until there are no more or
`accept` refuses one, and gives the chunks that were read. -/
def readAll (t : Transport σ) (session : Session) (capacity : Nat)
    (accept : Nat → Bytes → Bool) : (count index : Nat) →
    Act σ (Session × List Bytes × Outcome)
  | 0, _ => return (session, [], .ok ())
  | count + 1, index => do
    match ← session.readChunk t capacity index with
    | (session, .error fault) => return (session, [], .error fault)
    | (session, .ok none) => return (session, [], .ok ())
    | (session, .ok (some chunk)) =>
      if accept index chunk.bytes then
        let (session, chunks, outcome) ← session.readAll t capacity accept count (index + 1)
        return (session, chunk.bytes :: chunks, outcome)
      else return (session, [chunk.bytes], .ok ())

/-- Sends a whole request and reads the response, at most `count` chunks of it. The connection
is closed afterwards. -/
def request (t : Transport σ) (session : Session) (bytes : Bytes) (capacity : Nat)
    (accept : Nat → Bytes → Bool) (count : Nat) : Act σ (Session × List Bytes × Outcome) := do
  match ← session.ask t bytes with
  | (session, .error fault) => return (session, [], .error fault)
  | (session, .ok ()) =>
    let (session, chunks, outcome) ← session.readAll t capacity accept count 0
    return (← session.finish t, chunks, outcome)

/-- Gives back everything that the session holds of the transport. -/
def close (t : Transport σ) (session : Session) : Act σ Unit := do
  let _ ← session.disconnect t
  perform t.reset fun _ => .reset

end Session

end FirmwareUpdate
