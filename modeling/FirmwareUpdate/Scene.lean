import FirmwareUpdate.Call

/-!
# Scenes

The updater runs in a scene: the state of its platform, the notes written so far and the calls
made so far. An operation of the platform may change the platform's state and write notes; an
act of the updater performs operations, and every performed operation leaves an entry in the
record of calls.
-/

namespace FirmwareUpdate

variable {σ α : Type}

/-- A platform at work: its state and the notes written so far, the latest first. -/
structure Site (σ : Type) where
  state : σ
  notes : List Note := []

/-- An operation of a platform. -/
abbrev Op (σ : Type) := StateM (Site σ)

/-- The operation that only computes on the platform's state. -/
def Op.onState (f : σ → α × σ) : Op σ α := fun site =>
  let (a, state) := f site.state
  (a, { site with state })

/-- A site with the calls made so far, the latest first. -/
structure Scene (σ : Type) extends Site σ where
  calls : List Call := []

/-- What the updater does in a scene. -/
abbrev Act (σ : Type) := StateM (Scene σ)

/-- A monad in which notes can be written. -/
class Reporter (m : Type → Type) where
  /-- Writes notes, in order. -/
  reportAll : List Note → m Unit

export Reporter (reportAll)

instance : Reporter (Op σ) where
  reportAll notes := modify fun site => { site with notes := notes.reverse ++ site.notes }

instance : Reporter (Act σ) where
  reportAll notes := modify fun scene => { scene with notes := notes.reverse ++ scene.notes }

/-- Writes a note. -/
def report {m : Type → Type} [Reporter m] (origin : String) (severity : Severity)
    (text : String) : m Unit :=
  reportAll [⟨origin, severity, text⟩]

/-- An operation of the platform that leaves no entry. -/
def Act.ofOp (op : Op σ α) : Act σ α := fun scene =>
  let (a, site) := op scene.toSite
  (a, { scene with toSite := site })

instance : MonadLift (Op σ) (Act σ) := ⟨Act.ofOp⟩

/-- Performs an operation and records it as the call that `entry` makes of its answer. -/
def perform (op : Op σ α) (entry : α → Call) : Act σ α := do
  let a ← op
  modify fun scene => { scene with calls := entry a :: scene.calls }
  return a

end FirmwareUpdate
