import FirmwareUpdate.Device.Kit
import FirmwareUpdate.Slot.Programmer

/-!
# The slots of a device

The slots are partitions of the flash, and the kit writes images to them.
-/

namespace FirmwareUpdate.Device.Flash

variable {κ : Type} (kit : Kit κ)

/-- The part that the notes come from. -/
def origin : String := "manager"

/-- An image that is being written to a slot. -/
structure Writer where
  image : Handle
  label : String
deriving DecidableEq, Repr

/-- The text of a label, which ends at its first NUL byte. -/
def labelText (label : Bytes) : String :=
  String.ofList (Utf8.decodeLossy (label.takeWhile (· != 0)))

/-- The label of the slot that is selected for boot. -/
def bootLabel : Op (Board κ) (Except Fault String) := do
  match ← ask kit .bootLabel with
  | none => return .error (.partitionNotFound "boot")
  | some label => return .ok (labelText label)

/-- Makes sure of a slot. -/
def find (label : String) : Op (Board κ) Outcome := do
  if label.toList.contains '\x00' then
    return .error (.invalidArgument "partition label contains NUL")
  else
    let isThere : Bool ← ask kit (.find label)
    if isThere then return .ok ()
    else
      report origin .error s!"No app partition labelled '{label}'"
      return .error (.partitionNotFound label)

/-- Erases a slot and opens it for writing. -/
def openWriter (label : String) : Op (Board κ) (Except Fault Writer) := do
  match ← find kit label with
  | .error fault => return .error fault
  | .ok () =>
    let (code, image) : Int × Handle ← ask kit (.beginImage label)
    if code = 0 then return .ok ⟨image, label⟩
    else
      report origin .error s!"esp_ota_begin on '{label}' failed: {code}"
      return .error (.storageWrite s!"esp_ota_begin failed ({code})")

/-- Writes to a slot. -/
def write (writer : Writer) (data : Bytes) : Op (Board κ) Outcome := do
  let code : Int ← ask kit (.writeImage writer.image data)
  if code = 0 then return .ok ()
  else
    return .error (.storageWrite s!"esp_ota_write to '{writer.label}' failed ({code})")

/-- The code of the kit for an image that is not valid. -/
def invalidImage : Int := 5379

/-- Ends the writing to a slot and has the image checked. -/
def finish (writer : Writer) : Op (Board κ) Outcome := do
  let code : Int ← ask kit (.endImage writer.image)
  if code = 0 then return .ok ()
  else if code = invalidImage then
    return .error (.storageWrite s!"image in '{writer.label}' failed validation")
  else return .error (.storageWrite s!"esp_ota_end failed ({code})")

/-- Gives up the writing to a slot. -/
def discard (writer : Writer) : Op (Board κ) Unit := do
  let code : Int ← ask kit (.abortImage writer.image)
  if code ≠ 0 then
    report origin .warn s!"esp_ota_abort on '{writer.label}' returned {code}"

/-- Selects a slot for boot. -/
def select (label : String) : Op (Board κ) Outcome := do
  match ← find kit label with
  | .error fault => return .error fault
  | .ok () =>
    let code : Int ← ask kit (.select label)
    if code = 0 then return .ok ()
    else
      return .error (.storageWrite
        s!"esp_ota_set_boot_partition('{label}') failed ({code})")

/-- The slots on a board. -/
def slots : Slots (Board κ) Writer where
  bootLabel := bootLabel kit
  openWriter := openWriter kit
  write := write kit
  finish := finish kit
  discard := discard kit
  select := select kit

end FirmwareUpdate.Device.Flash
