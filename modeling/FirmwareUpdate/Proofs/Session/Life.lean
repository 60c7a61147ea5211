import FirmwareUpdate.Session.Basic

/-!
# The life of a session

Between its start and its end a session may be put through any actions, in any order: whoever
owns it connects and disconnects, sends requests, reads responses in part or as a whole, and
gives them up. What the peer and the transport do is not limited in any way.
-/

namespace FirmwareUpdate.Session

variable {σ : Type}

/-- What can be done with a session. A request is asked for, read in chunks and given up with
three actions of their own, or all of this is done by one. -/
inductive Action
  | connect
  | disconnect
  | ask (request : Bytes)
  | readChunk (capacity index : Nat)
  | finish
  | request (bytes : Bytes) (capacity : Nat) (accept : Nat → Bytes → Bool) (count : Nat)

/-- The session after an action. -/
def act (t : Transport σ) (session : Session) : Action → Act σ Session
  | .connect => return (← session.connect t).1
  | .disconnect => session.disconnect t
  | .ask request => return (← session.ask t request).1
  | .readChunk capacity index => return (← session.readChunk t capacity index).1
  | .finish => session.finish t
  | .request bytes capacity accept count =>
    return (← session.request t bytes capacity accept count).1

/-- The session after actions. -/
def acts (t : Transport σ) : Session → List Action → Act σ Session
  | session, [] => return session
  | session, action :: actions => do
    let session ← session.act t action
    session.acts t actions

/-- The whole life of a session: actions, and its end. -/
def live (t : Transport σ) (session : Session) (actions : List Action) : Act σ Unit := do
  let session ← session.acts t actions
  session.close t

end FirmwareUpdate.Session
