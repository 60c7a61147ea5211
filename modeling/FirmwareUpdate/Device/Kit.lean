import FirmwareUpdate.Scene

/-!
# The development kit

The device's software reaches its hardware through a development kit. Whatever it wants is a
query, and the kit answers it. A board is a kit together with what the software itself keeps
between its calls; every query and its answer are recorded there.
-/

namespace FirmwareUpdate.Device

/-- The number that the kit gives to a connection or an image it has opened. -/
abbrev Handle := Nat

/-- What a station joins a network with. -/
structure Credentials where
  ssid : String
  password : String
deriving DecidableEq, Repr

/-- What a connection is established with. The certificate of the authority comes with the NUL
byte that the kit expects after it; the time limit is in milliseconds. -/
structure Endpoint where
  host : String
  port : UInt16
  authority : Bytes
  limit : Int
deriving DecidableEq, Repr

/-- What the software can ask of the kit. -/
inductive Query
  | peripherals
  | eventLoop
  | storagePartition
  | timerService
  | openStorage (space : String)
  | readRecord (path : String) (capacity : Nat)
  | writeRecord (path : String) (record : Bytes)
  | newConnection
  | establish (connection : Handle) (endpoint : Endpoint)
  | context (connection : Handle)
  | verdict (connection : Handle)
  | peerCertificate (connection : Handle)
  | send (connection : Handle) (data : Bytes)
  | receive (connection : Handle) (capacity : Nat)
  | free (connection : Handle)
  | bootLabel
  | find (label : String)
  | beginImage (label : String)
  | writeImage (image : Handle) (data : Bytes)
  | endImage (image : Handle)
  | abortImage (image : Handle)
  | select (label : String)
  | newTimer
  | cancelTimer
  | startTimer (period : Duration)
  | newRadio
  | configure (credentials : Credentials)
  | newStation
  | isStarted
  | start
  | stop
  | join
  | awaitAddress
  | isUp
  | address
  | disablePowerSave
  | delay (milliseconds : Nat)
  | restart
deriving DecidableEq, Repr

/-- What an answer to a query is. A code of zero means success where nothing else is said;
`establish`, `send` and `receive` answer with codes of their own. -/
def Query.Answer : Query → Type
  | peripherals | eventLoop | storagePartition | timerService | openStorage _
  | writeRecord _ _ | newTimer | cancelTimer | startTimer _ | newRadio | configure _
  | newStation | start | stop | join | awaitAddress => Except String Unit
  | readRecord _ _ => Except String (Option Bytes)
  | newConnection => Option Handle
  | context _ | find _ => Bool
  | verdict _ => UInt32
  | peerCertificate _ | bootLabel => Option Bytes
  | receive _ _ => Int × Bytes
  | beginImage _ => Int × Handle
  | establish _ _ | send _ _ | writeImage _ _ | endImage _ | abortImage _ | select _
  | disablePowerSave => Int
  | isStarted | isUp => Except String Bool
  | address => Except String UInt32
  | free _ | delay _ | restart => Unit

/-- A query and its answer. -/
structure Exchange where
  query : Query
  answer : query.Answer

/-- A kit that keeps a state of type `κ`. -/
abbrev Kit (κ : Type) := (query : Query) → StateM κ query.Answer

/-- What the software keeps about its connection: the certificate of the authority once it has
been configured, whom it was dialled to, and its handle while it is open. Received bytes are
put into a window of memory that belongs to the caller; what an earlier read has left there
stays until it is overwritten. -/
structure Link where
  authority : Option Bytes := none
  host : String := ""
  port : UInt16 := 0
  connection : Option Handle := none
  window : Bytes := []
deriving DecidableEq, Repr

/-- A kit at work and the software's state: its connection, the severities it logs, and the
exchanges so far, the latest first. -/
structure Board (κ : Type) where
  kit : κ
  link : Link := {}
  limit : LogLimit := .off
  exchanges : List Exchange := []

variable {κ : Type}

/-- Asks the kit. -/
def ask (kit : Kit κ) (query : Query) : Op (Board κ) query.Answer := .onState fun board =>
  let (answer, state) := kit query board.kit
  (answer, { board with kit := state, exchanges := ⟨query, answer⟩ :: board.exchanges })

/-- The state of the software's connection. -/
def theLink : Op (Board κ) Link := return (← get).state.link

/-- Changes the state of the software's connection. -/
def changeLink (f : Link → Link) : Op (Board κ) Unit := .onState fun board =>
  ((), { board with link := f board.link })

namespace Query

/-- The name of a query. -/
def name : Query → String
  | peripherals => "peripherals"
  | eventLoop => "event_loop"
  | storagePartition => "storage_partition"
  | timerService => "timer_service"
  | openStorage _ => "storage"
  | readRecord _ _ => "get_blob"
  | writeRecord _ _ => "set_blob"
  | newConnection => "esp_tls_init"
  | establish _ _ => "esp_tls_conn_new_async"
  | context _ => "esp_tls_get_ssl_context"
  | verdict _ => "mbedtls_ssl_get_verify_result"
  | peerCertificate _ => "mbedtls_ssl_get_peer_cert"
  | send _ _ => "esp_tls_conn_write"
  | receive _ _ => "esp_tls_conn_read"
  | free _ => "esp_tls_conn_destroy"
  | bootLabel => "esp_ota_get_boot_partition"
  | find _ => "esp_partition_find_first"
  | beginImage _ => "esp_ota_begin"
  | writeImage _ _ => "esp_ota_write"
  | endImage _ => "esp_ota_end"
  | abortImage _ => "esp_ota_abort"
  | select _ => "esp_ota_set_boot_partition"
  | newTimer => "timer"
  | cancelTimer => "cancel"
  | startTimer _ => "after"
  | newRadio => "radio"
  | configure _ => "set_configuration"
  | newStation => "station"
  | isStarted => "is_started"
  | start => "start"
  | stop => "stop"
  | join => "connect"
  | awaitAddress => "wait_netif_up"
  | isUp => "is_up"
  | address => "get_ip_info"
  | disablePowerSave => "esp_wifi_set_ps"
  | delay _ => "delay_ms"
  | restart => "esp_restart"

/-- The texts of a query's arguments. -/
def arguments : Query → List String
  | openStorage space => [space, "true"]
  | readRecord path capacity => [path, toString capacity]
  | writeRecord path _ => [path]
  | establish _ endpoint =>
    let isTerminated := endpoint.authority.getLast? == some 0
    [endpoint.host, s!"len={endpoint.host.utf8ByteSize}", s!"port={endpoint.port}",
      s!"ca={endpoint.authority.length}", s!"nul={isTerminated}", "non_block=true",
      s!"timeout_ms={endpoint.limit}"]
  | send _ data => [toString data.length]
  | receive _ capacity => [toString capacity]
  | find label => ["0", "255", label]
  | beginImage label => [label, "0xffffffff"]
  | writeImage image data => [toString image, toString data.length]
  | endImage image | abortImage image => [toString image]
  | select label => [label]
  | startTimer period => [s!"{period.milliseconds}ms"]
  | newRadio => ["nvs=true"]
  | configure credentials =>
    let method := if credentials.password.isEmpty then "None" else "WPA2Personal"
    ["client", s!"ssid={credentials.ssid}", s!"password={credentials.password}",
      s!"auth={method}"]
  | disablePowerSave => ["0"]
  | delay milliseconds => [toString milliseconds]
  | _ => []

end Query

/-- The codes of an exchange that are shown behind it. -/
def Exchange.codes : Exchange → List Int
  | ⟨.send _ _, code⟩ => [code]
  | ⟨.receive _ _, answer⟩ => [answer.1]
  | _ => []

/-- The line that stands for an exchange in a trace, where `rename` may give a query another
name. -/
def Exchange.text (rename : String → String) (exchange : Exchange) : String :=
  let words := rename exchange.query.name :: exchange.query.arguments
  " ".intercalate (words ++ exchange.codes.map fun code => s!"-> {code}")

end FirmwareUpdate.Device
