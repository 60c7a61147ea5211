import FirmwareUpdate.Fault
import FirmwareUpdate.Log
import FirmwareUpdate.Text.Utf8

/-!
# Requests

A request asks a host for the file at a path. Both are taken as they are given, only not
empty.
-/

namespace FirmwareUpdate

/-- A request for the file at `path` on `host`. -/
structure Request where
  host : String
  path : String
  host_ne : host ≠ ""
  path_ne : path ≠ ""
deriving DecidableEq, Repr

namespace Request

/-- The only method. -/
def method : String := "GET"

/-- The request for a host and a path. -/
def get (host path : String) : Except Fault Request :=
  if hh : host = "" then .error (.invalidArgument "HTTP request: host missing")
  else if hp : path = "" then .error (.invalidArgument "HTTP request: path missing")
  else .ok ⟨host, path, hh, hp⟩

/-- The text of a request: a request line, the host, and an empty line. -/
def text (request : Request) : String :=
  s!"{method} {request.path} HTTP/1.1\r\nHost: {request.host}\r\n\r\n"

/-- The bytes of a request. -/
def bytes (request : Request) : Bytes :=
  utf8 request.text

/-- How the failure of a request is reported. The three status codes that operators can act on
have sentences of their own. -/
def failureText (request : Request) (id : UInt32) : Fault → String
  | .protocol (.nonOkStatus 401) =>
    s!"Request {id}: authentication with server failed (401) for '{request.path}'"
  | .protocol (.nonOkStatus 403) =>
    s!"Request {id}: access to '{request.path}' forbidden (403)"
  | .protocol (.nonOkStatus 404) =>
    s!"Request {id}: file '{request.path}' not found on server (404)"
  | other =>
    s!"Request {id}: GET '{request.path}' from '{request.host}' failed "
      ++ s!"[{other.code}]: {other.message}"

/-- The note about the failure of a request. -/
def failureNote (request : Request) (id : UInt32) (fault : Fault) : Note :=
  ⟨"http", .error, request.failureText id fault⟩

end Request

end FirmwareUpdate
