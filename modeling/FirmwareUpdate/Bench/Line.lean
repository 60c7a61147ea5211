import FirmwareUpdate.Device.Monitor

/-!
# A scripted line

A network for trying the monitor out. Whether it is up, and whether connecting and restarting
succeed, is laid down before each look; the line notes what it is asked to do.
-/

namespace FirmwareUpdate.Bench

open Device

/-- A line: what it answers, and the calls and pauses so far. -/
structure Line where
  isUp : Bool := false
  connects : Bool := false
  restarts : Bool := false
  calls : List String := []
  pauses : List Nat := []
deriving DecidableEq, Repr

namespace Line

/-- Notes a call, which succeeds or fails with its own name. -/
def call (name : String) (succeeds : Line → Bool) : Op Line (Except String Unit) :=
  .onState fun line =>
    (if succeeds line then .ok () else .error name, { line with calls := line.calls ++ [name] })

/-- The line as the monitor sees it. -/
def uplink : Uplink Line where
  isUp := .onState fun line => (line.isUp, line)
  connect := call "connect" connects
  restart := call "restart" restarts
  pause milliseconds := .onState fun line =>
    ((), { line with pauses := line.pauses ++ [milliseconds] })

end Line

end FirmwareUpdate.Bench
