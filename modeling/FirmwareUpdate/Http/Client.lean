import FirmwareUpdate.Http.Reception
import FirmwareUpdate.Http.Request
import FirmwareUpdate.Session.Basic

/-!
# Client

A client asks for files over a session. A small file is collected as a whole; a large one is
streamed in fragments. The connection of a request is closed as soon as its file has arrived
or anything has gone wrong with it.
-/

namespace FirmwareUpdate

variable {σ : Type}

/-- A client with its session and the number of its next request. -/
structure Client where
  session : Session
  nextId : UInt32 := 1
deriving DecidableEq, Repr

namespace Client

/-- The part that a client's notes come from. -/
def origin : String := "http"

/-- The number of bytes that are read at once. -/
def chunkCapacity : Nat := 4096

/-- The number after a request's number. Zero is left out when the numbers start again. -/
def following (id : UInt32) : UInt32 :=
  if id + 1 = 0 then 1 else id + 1

/-- The fault of a response whose connection was closed too early. -/
def closedEarly (r : Reception) : Fault :=
  match r.head with
  | some head => .protocol (.truncatedBody head.contentLength.toNat r.received)
  | none => .transport "connection closed before response headers were complete"

/-- The body of the response that arrives, starting with the chunk of the given index. -/
def collect (t : Transport σ) (session : Session) (r : Reception) (index : Nat) :
    Act σ (Session × Except Fault Bytes) := do
  match ← session.readChunk t chunkCapacity index with
  | (session, .error fault) => return (session, .error fault)
  | (session, .ok none) => return (session, .error (closedEarly r))
  | (session, .ok (some chunk)) =>
    let fed := r.feed index chunk.bytes
    reportAll (Reception.headNotes r fed.1 index)
    match _ : fed with
    | (_, .error fault) => return (← session.finish t, .error (.protocol fault))
    | (after, .ok .needMore) => collect t session after (index + 1)
    | (after, .ok (.body size)) =>
      let length := after.head.elim size (·.contentLength.toNat)
      return (← session.finish t, .ok (after.front.take length))
termination_by (if index = 0 then 1 else 0, r.patience)
decreasing_by
  by_cases hindex : index = 0
  · simp only [hindex, if_true]
    exact Prod.Lex.left _ _ (by simp)
  · simp only [hindex, if_false]
    exact Prod.Lex.right _ (Reception.patience_feed_lt hindex chunk.bytes_ne ‹_›)

/-- Connects and sends a request. -/
def begin (t : Transport σ) (session : Session) (request : Request) :
    Act σ (Session × Outcome) := do
  match ← session.connect t with
  | (session, .error fault) => return (session, .error fault)
  | (session, .ok ()) => session.ask t request.bytes

/-- The client after it has given a number to a request. -/
def advance (client : Client) : Client :=
  { client with nextId := following client.nextId }

/-- The file that a request asks for, if it fits together with its head into `capacity`
bytes. -/
def fetch (t : Transport σ) (client : Client) (request : Request) (capacity : Nat) :
    Act σ (Client × Except Fault Bytes) := do
  let id := client.nextId
  let client := client.advance
  report origin .info s!"Request {id}: GET https://{request.host}{request.path}"
  let (session, result) ← match ← begin t client.session request with
    | (session, .error fault) => pure (session, .error fault)
    | (session, .ok ()) => collect t session (.start .whole capacity) 0
  match result with
  | .ok body => report origin .debug s!"Request {id}: {body.length} body bytes"
  | .error fault => reportAll [request.failureNote id fault]
  return ({ client with session }, result)

/-- A part of a streamed body, or the end of it. -/
inductive Fragment
  | data (bytes : Bytes)
  | finished
deriving DecidableEq, Repr

/-- A body that is being streamed. While `isDelivered` holds, the fragment that was handed out
last is still in the buffer. -/
structure Stream where
  session : Session
  request : Request
  id : UInt32
  reception : Reception
  index : Nat := 0
  isDelivered : Bool := false

/-- Asks for a file and starts to stream it through a buffer. -/
def openStream (t : Transport σ) (client : Client) (request : Request) (capacity : Nat) :
    Act σ (Client × Except Fault Stream) := do
  let id := client.nextId
  let client := client.advance
  report origin .info s!"Request {id}: GET https://{request.host}{request.path} (streaming)"
  match ← begin t client.session request with
  | (session, .error fault) =>
    reportAll [request.failureNote id fault]
    return ({ client with session }, .error fault)
  | (session, .ok ()) =>
    let stream := { session, request, id, reception := .start .streamed capacity }
    return ({ client with session }, .ok stream)

namespace Stream

/-- Reports a failure of the stream and gives it back. -/
def failed (stream : Stream) (fault : Fault) :
    Act σ (Stream × Except Fault (Option Fragment)) := do
  reportAll [stream.request.failureNote stream.id fault]
  return (stream, .error fault)

/-- The stream after one more chunk. -/
def advance (stream : Stream) (session : Session) (reception : Reception) : Stream :=
  { stream with session, reception, index := stream.index + 1 }

/-- The next fragment from what arrives. -/
def receive (t : Transport σ) (stream : Stream) :
    Act σ (Stream × Except Fault (Option Fragment)) := do
  let r := stream.reception
  match ← stream.session.readChunk t chunkCapacity stream.index with
  | (session, .error fault) => failed { stream with session } fault
  | (session, .ok none) =>
    if r.bodyComplete then return ({ stream with session }, .ok none)
    else failed { stream with session } (closedEarly r)
  | (session, .ok (some chunk)) =>
    let fed := r.feed stream.index chunk.bytes
    reportAll (Reception.headNotes r fed.1 stream.index)
    match _ : fed with
    | (after, .error fault) =>
      failed (stream.advance (← session.finish t) after) (.protocol fault)
    | (after, .ok .needMore) =>
      if after.bodyComplete then
        return (stream.advance (← session.finish t) after, .ok (some .finished))
      else receive t (stream.advance session after)
    | (after, .ok (.body _)) =>
      return ({ stream.advance session after with isDelivered := true },
        .ok (some (.data after.front)))
termination_by (if stream.index = 0 then 1 else 0, stream.reception.patience)
decreasing_by
  by_cases hindex : stream.index = 0
  · simp only [advance, hindex, if_true]
    exact Prod.Lex.left _ _ (by simp)
  · simp only [advance, hindex, if_false]
    exact Prod.Lex.right _ (Reception.patience_feed_lt hindex chunk.bytes_ne ‹_›)

/-- The next fragment of the body. After the end there is nothing more. -/
def next (t : Transport σ) (stream : Stream) :
    Act σ (Stream × Except Fault (Option Fragment)) := do
  if stream.isDelivered then
    let stream := { stream with isDelivered := false }
    if stream.reception.bodyComplete then
      let session ← stream.session.finish t
      return ({ stream with session }, .ok (some .finished))
    else receive t { stream with reception := stream.reception.drain }
  else stream.receive t

/-- Ends the stream, wherever it stands, and gives its session back. -/
def close (t : Transport σ) (stream : Stream) : Act σ Session :=
  stream.session.finish t

end Stream

end Client

end FirmwareUpdate
