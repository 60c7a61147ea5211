import FirmwareUpdate.Http.Client

/-!
# Dialogues

A session and a stream tried out call by call, with every answer kept.
-/

namespace FirmwareUpdate.Bench.Dialogue

variable {σ : Type}

/-- What is done next with a response: at most so many bytes of it are read, or it is left. -/
inductive Turn
  | read (capacity : Nat)
  | leave
deriving DecidableEq, Repr

/-- What comes of a turn. -/
inductive Reply
  | chunk (index : Nat) (bytes : Bytes)
  | ended
  | failed (fault : Fault)
  | left
deriving DecidableEq, Repr

/-- Takes turns with a response of which the given number of chunks have been read, and leaves
it. -/
def converse (t : Transport σ) (session : Session) (index : Nat) :
    List Turn → Act σ (Session × List Reply)
  | [] => return (← session.finish t, [])
  | .leave :: rest => do
    let (session, replies) ← converse t (← session.finish t) index rest
    return (session, .left :: replies)
  | .read capacity :: rest => do
    let (session, result) ← session.readChunk t capacity index
    let (reply, next) := match result with
      | .ok (some chunk) => (Reply.chunk index chunk.bytes, index + 1)
      | .ok none => (.ended, index)
      | .error fault => (.failed fault, index)
    let (session, replies) ← converse t session next rest
    return (session, reply :: replies)

/-- Sends a request and takes turns with the response. -/
def exchange (t : Transport σ) (session : Session) (request : Bytes) (turns : List Turn) :
    Act σ (Session × Except Fault (List Reply)) := do
  match ← session.ask t request with
  | (session, .error fault) => return (session, .error fault)
  | (session, .ok ()) =>
    let (session, replies) ← converse t session 0 turns
    return (session, .ok replies)

/-- Whether an answer of a stream says that nothing more comes. -/
def isFinal : Except Fault (Option Client.Fragment) → Bool
  | .ok (some (.data _)) => false
  | _ => true

/-- The answers of a stream up to the first one that says that nothing more comes, and so many
more of those, but at most `count` in all. -/
def fragments (t : Transport σ) (stream : Client.Stream) : (count extra : Nat) →
    Act σ (Session × List (Except Fault (Option Client.Fragment)))
  | 0, _ => return (← stream.close t, [])
  | count + 1, extra => do
    let (stream, result) ← stream.next t
    if isFinal result && extra == 0 then return (← stream.close t, [result])
    else
      let extra := if isFinal result then extra - 1 else extra
      let (session, results) ← fragments t stream count extra
      return (session, result :: results)

end FirmwareUpdate.Bench.Dialogue
