import FirmwareUpdate.Config
import FirmwareUpdate.Trigger
import FirmwareUpdate.Text.Utf8

/-!
# Calls of the platform

Every call that the updater makes of its platform is recorded with the answer it got. The
record of a run is therefore all that the platform has seen of it, and statements about what
is sent, erased or selected are statements about that record.
-/

namespace FirmwareUpdate

/-- The answer of an operation that does not block: a value, the advice to try again and the
time that went by, or a failure. -/
inductive Progress (α : Type)
  | ready (value : α)
  | retry (spent : Duration)
  | failed (message : String)
deriving DecidableEq, Repr

/-- The outcome of an operation that gives nothing back. -/
abbrev Outcome := Except Fault Unit

/-- A call of the platform and its answer. -/
inductive Call
  | configure (outcome : Outcome)
  | dial (host : String) (port : UInt16) (outcome : Outcome)
  | handshake (progress : Progress Unit)
  | verifyChain (outcome : Outcome)
  | peerCertificate (certificate : Option Bytes)
  | send (offered : Bytes) (progress : Progress Nat)
  | receive (capacity : Nat) (progress : Progress Bytes)
  | hangUp
  | reset
  | bootLabel (label : Except Fault String)
  | openWriter (label : String) (outcome : Outcome)
  | write (label : String) (data : Bytes) (outcome : Outcome)
  | finish (label : String) (outcome : Outcome)
  | discard (label : String)
  | select (label : String) (outcome : Outcome)
  | arm (period : Duration) (pending : Triggers) (outcome : Outcome)
  | disarm (pending : Triggers)
  | restart (delay : Duration)
  | observe (config : Config)
deriving DecidableEq

namespace Call

/-- The text of an answer, where a value is shown by `value`. -/
def answerText {α : Type} (value : α → String) : Progress α → String
  | .ready a => value a
  | .retry _ => "retry"
  | .failed message => s!"failed {message}"

/-- The text of the flags that were pending at a call. -/
def pendingText (pending : Triggers) : String :=
  let digit (flag : Bool) := if flag then "1" else "0"
  s!"check={digit pending.check} download={digit pending.download}"

/-- The line that stands for a call in a trace. -/
def text : Call → String
  | configure _ => "initialize"
  | dial host port _ => s!"open {host}:{port}"
  | handshake progress => "handshake -> " ++ answerText (fun _ => "ready") progress
  | verifyChain _ => "verify_chain"
  | peerCertificate _ => "peer_certificate"
  | send offered progress => s!"send {offered.length} -> " ++ answerText toString progress
  | receive capacity progress =>
    s!"recv {capacity} -> " ++ answerText (fun data => toString data.length) progress
  | hangUp => "close"
  | reset => "reset"
  | bootLabel _ => "boot_partition"
  | openWriter label _ => s!"open_writer {label}"
  | write _ data _ => s!"write {data.length}"
  | finish _ _ => "finish"
  | discard _ => "discard"
  | select label _ => s!"set_boot_partition {label}"
  | arm period pending _ => s!"arm {period.seconds} {pendingText pending}"
  | disarm pending => s!"disarm {pendingText pending}"
  | restart delay => s!"restart {delay.milliseconds}"
  | observe config => s!"config {config.pollingInterval} {config.firmwarePath}"

end Call

/-- The lines with equal neighbours drawn together and counted. -/
def tally (lines : List String) : List String :=
  (lines.foldr join []).map fun (line, count) =>
    if count = 1 then line else s!"{line} x{count}"
where
  /-- One more line in front of counted lines. -/
  join (line : String) : List (String × Nat) → List (String × Nat)
    | [] => [(line, 1)]
    | (next, count) :: rest =>
      if line = next then (next, count + 1) :: rest else (line, 1) :: (next, count) :: rest

end FirmwareUpdate
