import FirmwareUpdate.Slot.Programmer

/-!
# Slots in memory

The slots of a device kept in memory. Every write to a slot is noted, and writes and the check
of an image can be made to fail.
-/

namespace FirmwareUpdate.Bench

/-- A slot: its image, the sizes of the writes to it, and whether it has been given up. -/
structure MemorySlot where
  image : Bytes := []
  writes : List Nat := []
  isDiscarded : Bool := false
deriving DecidableEq, Repr

/-- The slots of a device by their labels, and the label that is selected for boot. After
`writesLeft` more writes, if that is set, writing fails. -/
structure MemorySlots where
  boot : String
  slots : List (String × MemorySlot) := [("factory", {}), ("ota_0", {}), ("ota_1", {})]
  writesLeft : Option Nat := none
  failsFinish : Bool := false
deriving DecidableEq, Repr

namespace MemorySlots

/-- The slots with one of them changed. -/
def update (table : MemorySlots) (label : String) (f : MemorySlot → MemorySlot) : MemorySlots :=
  { table with
    slots := table.slots.map fun (name, slot) => (name, if name = label then f slot else slot) }

/-- Erases a slot for writing. -/
def openWriter (table : MemorySlots) (label : String) : Except Fault String × MemorySlots :=
  if table.slots.any (·.1 == label) then (.ok label, table.update label fun _ => {})
  else (.error (.partitionNotFound label), table)

/-- The slots after a write to one of them. -/
def append (table : MemorySlots) (label : String) (data : Bytes) : MemorySlots :=
  table.update label fun slot =>
    { slot with image := slot.image ++ data, writes := slot.writes ++ [data.length] }

/-- Writes to a slot. -/
def write (table : MemorySlots) (label : String) (data : Bytes) : Outcome × MemorySlots :=
  match table.writesLeft with
  | some 0 => (.error (.storageWrite "simulated flash failure"), table)
  | some (n + 1) => (.ok (), { table with writesLeft := some n }.append label data)
  | none => (.ok (), table.append label data)

/-- Checks the image in a slot. -/
def finish (table : MemorySlots) : Outcome :=
  if table.failsFinish then .error (.storageWrite "image validation failed") else .ok ()

/-- Gives a slot up. -/
def discard (table : MemorySlots) (label : String) : MemorySlots :=
  table.update label fun slot => { slot with isDiscarded := true }

/-- Selects a slot for boot. -/
def select (table : MemorySlots) (label : String) : MemorySlots :=
  { table with boot := label }

/-- The slots in which something has happened. -/
def touched (table : MemorySlots) : List (String × MemorySlot) :=
  table.slots.filter fun (_, slot) => slot ≠ {}

end MemorySlots

end FirmwareUpdate.Bench
