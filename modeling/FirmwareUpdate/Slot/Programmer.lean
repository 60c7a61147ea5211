import FirmwareUpdate.Scene
import FirmwareUpdate.Sha256
import FirmwareUpdate.Slot.Ring

/-!
# Programming a slot

An image is written to the slot that follows the selected one, in whole pages; the bytes of
the last page wait until the image is committed. A commit writes them, has the image checked,
and only then selects the slot for the next boot. A session that cannot be committed is
discarded and leaves the selection as it was.
-/

namespace FirmwareUpdate

variable {σ ω : Type}

/-- The number of bytes in a page. -/
def pageSize : Nat := 4096

/-- The operations on the slots of a device; `ω` stands for a slot that has been opened for
writing. `bootLabel` is the slot that is selected for boot, `openWriter` erases a slot,
`finish` checks the written image, and `discard` gives the slot up. -/
structure Slots (σ ω : Type) where
  bootLabel : Op σ (Except Fault String)
  openWriter : String → Op σ (Except Fault ω)
  write : ω → Bytes → Op σ Outcome
  finish : ω → Op σ Outcome
  discard : ω → Op σ Unit
  select : String → Op σ Outcome

/-- An image that is being written: the bytes that wait for their page to fill, the number of
bytes in the slot, and their digest. -/
structure Programming (ω : Type) where
  writer : ω
  slot : String
  page : Bytes := []
  cursor : Nat := 0
  digest : Sha256.Stream := .empty

/-- An image that has been installed. -/
structure Installation where
  slot : String
  size : Nat
  digest : String
deriving DecidableEq, Repr

/-- The slots of a device and the image that is being written, if there is one. -/
structure Programmer (ω : Type) where
  ring : SlotRing := .twoSlots
  session : Option (Programming ω) := none

namespace Programming

/-- The programming after `page` has been written. -/
def flushed (p : Programming ω) (page : Bytes) : Programming ω :=
  { p with page := [], cursor := p.cursor + page.length, digest := p.digest.update page }

/-- Writes a page to the slot. -/
def writePage (s : Slots σ ω) (p : Programming ω) (page : Bytes) : Act σ Outcome := do
  let offset := Text.padded 16 8 p.cursor
  report "flash" .debug s!"Writing {page.length} bytes to '{p.slot}' at offset 0x{offset}"
  perform (s.write p.writer page) (.write p.slot page)

/-- Takes in data and writes every page that is full. When a page cannot be written, it stays
full and the data after it is dropped. -/
def stage (s : Slots σ ω) (p : Programming ω) (data : Bytes) :
    Act σ (Programming ω × Outcome) := do
  if data.isEmpty then return (p, .ok ())
  else
    let room := pageSize - p.page.length
    let page := p.page ++ data.take room
    if page.length < pageSize then return ({ p with page }, .ok ())
    else
      match ← p.writePage s page with
      | .error fault => return ({ p with page }, .error fault)
      | .ok () => (p.flushed page).stage s (data.drop room)
termination_by 2 * data.length + if pageSize ≤ p.page.length then 1 else 0
decreasing_by
  have hdata : data ≠ [] := by rintro rfl; simp_all
  have hlength := List.length_pos_iff.mpr hdata
  simp only [flushed, List.length_drop, List.length_nil, room]
  by_cases hfull : pageSize ≤ p.page.length
  · simp only [hfull, if_true]
    have : ¬ pageSize ≤ 0 := by decide
    simp only [this, if_false]
    omega
  · have : ¬ pageSize ≤ 0 := by decide
    simp only [hfull, this, if_false]
    omega

/-- Writes the bytes that wait for their page to fill. -/
def flush (s : Slots σ ω) (p : Programming ω) : Act σ (Programming ω × Outcome) := do
  if p.page.isEmpty then return (p, .ok ())
  else
    match ← p.writePage s p.page with
    | .error fault => return (p, .error fault)
    | .ok () => return (p.flushed p.page, .ok ())

/-- The installation that the programming has come to. -/
def installation (p : Programming ω) : Installation :=
  ⟨p.slot, p.cursor, Hex.encode p.digest.digest⟩

end Programming

namespace Programmer

/-- The part that a programmer's notes come from. -/
def origin : String := "flash"

/-- Whether an image is being written. -/
def isOpen (programmer : Programmer ω) : Bool :=
  programmer.session.isSome

/-- The programmer with nothing being written. -/
def closed (programmer : Programmer ω) : Programmer ω :=
  { programmer with session := none }

/-- Starts to write an image to the slot after the selected one. The memory for the page is always
there: that it may be wanting, which would be told before the slot is opened, is left out. -/
def begin (s : Slots σ ω) (programmer : Programmer ω) : Act σ (Programmer ω × Outcome) := do
  if programmer.isOpen then
    report origin .error "Flash programming session already open"
    return (programmer, .error (.sessionState .alreadyOpen))
  else
    match ← perform s.bootLabel .bootLabel with
    | .error fault => return (programmer, .error fault)
    | .ok running =>
      match programmer.ring.next running with
      | .error fault => return (programmer, .error fault)
      | .ok slot =>
        match ← perform (s.openWriter slot) fun writer => .openWriter slot (discard writer) with
        | .error fault => return (programmer, .error fault)
        | .ok writer =>
          report origin .info
            s!"Programming session opened: running from '{running}', writing '{slot}'"
          return ({ programmer with session := some { writer, slot } }, .ok ())

/-- Takes in data of the image. -/
def write (s : Slots σ ω) (programmer : Programmer ω) (data : Bytes) :
    Act σ (Programmer ω × Outcome) := do
  match programmer.session with
  | none => return (programmer, .error (.sessionState .notOpen))
  | some p =>
    let (p, outcome) ← p.stage s data
    return ({ programmer with session := some p }, outcome)

/-- Installs the image that has been written. Nothing is being written afterwards. -/
def commit (s : Slots σ ω) (programmer : Programmer ω) :
    Act σ (Programmer ω × Except Fault Installation) := do
  match programmer.session with
  | none => return (programmer, .error (.sessionState .notOpen))
  | some p =>
    let programmer := programmer.closed
    match ← p.flush s with
    | (p, .error fault) =>
      report origin .error s!"Final page write failed: {fault.message}"
      perform (s.discard p.writer) fun _ => .discard p.slot
      return (programmer, .error fault)
    | (p, .ok ()) =>
      match ← perform (s.finish p.writer) (.finish p.slot) with
      | .error fault =>
        report origin .error s!"Image in '{p.slot}' failed validation: {fault.message}"
        return (programmer, .error fault)
      | .ok () =>
        match ← perform (s.select p.slot) (.select p.slot) with
        | .error fault =>
          report origin .error
            s!"Failed to select '{p.slot}' as boot partition: {fault.message}"
          return (programmer, .error fault)
        | .ok () =>
          let done := p.installation
          report origin .info
            (s!"Programming session committed: {done.size} bytes to '{done.slot}' "
              ++ s!"(sha256 {done.digest})")
          return (programmer, .ok done)

/-- Gives the image up. Nothing is being written afterwards. -/
def abort (s : Slots σ ω) (programmer : Programmer ω) : Act σ (Programmer ω × Outcome) := do
  match programmer.session with
  | none => return (programmer, .error (.sessionState .notOpen))
  | some p =>
    report origin .info
      s!"Programming session aborted after {p.cursor + p.page.length} bytes to '{p.slot}'"
    perform (s.discard p.writer) fun _ => .discard p.slot
    return (programmer.closed, .ok ())

end Programmer

end FirmwareUpdate
