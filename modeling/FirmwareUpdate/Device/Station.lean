import FirmwareUpdate.Device.Kit

/-!
# The network of a device

A station joins a wireless network and gets an address there.
-/

namespace FirmwareUpdate.Device

variable {κ : Type} (kit : Kit κ)

/-- A station, which knows the name of its network. -/
structure Station where
  ssid : String
deriving DecidableEq, Repr

namespace Station

/-- The part that the notes come from. -/
def origin : String := "wifi"

/-- The number of bytes that the name of a network may have. -/
def ssidSize : Nat := 32

/-- The number of bytes that a password may have. -/
def passwordSize : Nat := 64

/-- Accepts a name and a password that the radio can hold; a refusal comes with its note. -/
def checkCredentials (credentials : Credentials) : Except (String × Note) Unit :=
  let ssid := credentials.ssid
  if ssidSize < ssid.utf8ByteSize then
    .error (s!"Invalid SSID format: {ssid}",
      ⟨origin, .error, s!"Failed to convert SSID '{ssid}': ()"⟩)
  else if passwordSize < credentials.password.utf8ByteSize then
    .error ("Invalid password format",
      ⟨origin, .error, "Failed to convert password: ()"⟩)
  else .ok ()

/-- Sets the radio up for a network. -/
def setUp (credentials : Credentials) : Op (Board κ) (Except String Station) := do
  match ← ask kit .newRadio with
  | .error message => return .error message
  | .ok () =>
    match checkCredentials credentials with
    | .error (message, note) =>
      reportAll [note]
      return .error message
    | .ok () =>
      if credentials.password.isEmpty then
        report origin .warn "WiFi password is empty, using open network"
      match ← ask kit (.configure credentials) with
      | .error message => return .error message
      | .ok () =>
        match ← ask kit .newStation with
        | .error message => return .error message
        | .ok () =>
          report origin .info "WiFi manager initialized successfully"
          return .ok ⟨credentials.ssid⟩

/-- A station for a network, which has to have a name. -/
def new (credentials : Credentials) : Op (Board κ) (Except String Station) := do
  report origin .info s!"Initializing WiFi manager for SSID: '{credentials.ssid}'"
  if credentials.ssid.isEmpty then
    report origin .error "WiFi SSID is empty! Check wifi_config.h"
    return .error "WiFi SSID cannot be empty"
  else setUp kit credentials

/-- The text of an address. -/
def addressText (address : UInt32) : String :=
  let n := address.toNat
  ".".intercalate ([n >>> 24, n >>> 16, n >>> 8, n].map fun part => toString (part % 256))

/-- The address of the station. -/
def address : Op (Board κ) (Option String) := do
  match ← ask kit .address with
  | .ok address => return some (addressText address)
  | .error _ => return none

/-- Starts the radio, unless it has been started. -/
def ensureStarted : Op (Board κ) (Except String Unit) := do
  match ← ask kit .isStarted with
  | .error message => return .error message
  | .ok true => return .ok ()
  | .ok false =>
    report origin .info "Starting WiFi..."
    ask kit .start

/-- Reports the address and switches the saving of power off. The kit is asked for the address
only if the note about it is written. -/
def settle : Op (Board κ) Unit := do
  if (← get).state.limit.admits .info then
    let address := (← address kit).getD "unknown"
    report origin .info s!"WiFi connected! IP: {address}"
  let code : Int ← ask kit .disablePowerSave
  if code ≠ 0 then
    report origin .warn s!"Failed to set WiFi power save mode: {code}"

/-- Joins the network and waits for an address. -/
def connect (station : Station) : Op (Board κ) (Except String Unit) := do
  match ← ensureStarted kit with
  | .error message => return .error message
  | .ok () =>
    report origin .info s!"Connecting to {station.ssid}..."
    match ← ask kit .join with
    | .error message => return .error message
    | .ok () =>
      report origin .info "Waiting for DHCP..."
      match ← ask kit .awaitAddress with
      | .error message => return .error message
      | .ok () =>
        settle kit
        return .ok ()

/-- Whether the station has joined the network and has an address. -/
def isUp : Op (Board κ) Bool := do
  match ← ask kit .isUp with
  | .ok isUp => return isUp
  | .error _ => return false

/-- Stops the radio and starts it again. -/
def restart : Op (Board κ) (Except String Unit) := do
  let _ ← ask kit .stop
  ask kit .start

end Station

end FirmwareUpdate.Device
