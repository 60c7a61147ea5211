import FirmwareUpdate.Http.Head
import FirmwareUpdate.Log

/-!
# Receptions

A response arrives in chunks and is taken in by a buffer of fixed capacity. The bytes of the
head are held until its terminator has arrived; then the bytes after the terminator move to
the front of the buffer and are the start of the body. A chunk that does not fit is refused as
a whole, and one with index zero starts a new response in a cleared buffer.
-/

namespace FirmwareUpdate

/-- A block of memory of fixed capacity: the bytes written to its front so far, and the byte
that fills the rest. -/
structure Buffer where
  capacity : Nat
  front : Bytes := []
  filler : UInt8 := 0
deriving DecidableEq, Repr

namespace Buffer

/-- All bytes of the buffer. -/
def content (buffer : Buffer) : Bytes :=
  buffer.front ++ List.replicate (buffer.capacity - buffer.front.length) buffer.filler

/-- The buffer filled with zeros. -/
def clear (buffer : Buffer) : Buffer :=
  { buffer with front := [], filler := 0 }

/-- The buffer with `data` written behind its first `offset` bytes, which have been written
before. -/
def write (buffer : Buffer) (offset : Nat) (data : Bytes) : Buffer :=
  { buffer with
    front := buffer.front.take offset ++ data ++ buffer.front.drop (offset + data.length) }

@[simp]
theorem capacity_write (buffer : Buffer) (offset : Nat) (data : Bytes) :
  (buffer.write offset data).capacity = buffer.capacity
  := rfl

end Buffer

/-- How a body is handed out: once it is complete, or as it arrives. -/
inductive Delivery
  | whole
  | streamed
deriving DecidableEq, Repr

/-- What comes of a chunk: more are needed, or so many bytes of the body are at the front of
the buffer. -/
inductive Feed
  | needMore
  | body (size : Nat)
deriving DecidableEq, Repr

/-- A response that is being received: what its head says, once it has arrived, how many bytes
are held at the front of the buffer, and how many bytes of the body have arrived. -/
structure Reception where
  delivery : Delivery
  buffer : Buffer
  head : Option Head := none
  held : Nat := 0
  received : Nat := 0
deriving DecidableEq, Repr

namespace Reception

/-- A reception with an empty buffer. -/
def start (delivery : Delivery) (capacity : Nat) : Reception :=
  { delivery, buffer := { capacity } }

/-- The bytes that are held. -/
def front (r : Reception) : Bytes :=
  r.buffer.front.take r.held

/-- Whether the head has arrived. -/
def headComplete (r : Reception) : Bool :=
  r.head.isSome

/-- Whether all bytes of the body have arrived. -/
def bodyComplete (r : Reception) : Bool :=
  match r.head with
  | some head => head.contentLength.toNat ≤ r.received
  | none => false

/-- The reception with no bytes held, so that the buffer can take the next chunk. -/
def drain (r : Reception) : Reception :=
  { r with held := 0 }

/-- The reception before the first chunk of a response. -/
def restart (r : Reception) : Reception :=
  { r with buffer := r.buffer.clear, head := none, held := 0, received := 0 }

/-- The reception with a chunk behind the held bytes. -/
def append (r : Reception) (chunk : Bytes) : Reception :=
  { r with buffer := r.buffer.write r.held chunk, held := r.held + chunk.length }

/-- The reception after its head has been read, with `body` as the start of the body. -/
def enterBody (r : Reception) (head : Head) (body : Bytes) : Reception :=
  { r with
    buffer := r.buffer.write 0 body
    head := some head
    held := body.length
    received := body.length }

/-- What is handed out of a response with the given head. -/
def offer (r : Reception) (head : Head) : Feed :=
  let isReady : Bool := match r.delivery with
    | .whole => head.contentLength.toNat ≤ r.held
    | .streamed => 0 < r.held
  if isReady then .body r.held else .needMore

/-- The reception after a chunk that fits behind the held bytes. -/
def take (r : Reception) (chunk : Bytes) : Reception × Except ProtocolFault Feed :=
  let r := r.append chunk
  match r.head with
  | some head =>
    let r := { r with received := r.received + chunk.length }
    (r, .ok (r.offer head))
  | none =>
    match Text.splitAtFirst Head.terminator r.front with
    | none => (r, .ok .needMore)
    | some (bytes, body) =>
      match Head.ofBytes bytes with
      | .error fault => (r, .error fault)
      | .ok head =>
        let r := r.enterBody head body
        (r, .ok (r.offer head))

/-- The reception after the chunk with the given index. -/
def feed (r : Reception) (index : Nat) (chunk : Bytes) : Reception × Except ProtocolFault Feed :=
  let r := if index = 0 then r.restart else r
  let required := r.held + chunk.length
  if r.buffer.capacity < required then
    (r, .error (.bufferTooSmall r.buffer.capacity required))
  else r.take chunk

/-- What is reported about a chunk: the head that it completes. -/
def headNotes (before after : Reception) (index : Nat) : List Note :=
  match (if index = 0 then none else before.head), after.head with
  | none, some head =>
    [⟨"http", .debug,
      s!"HTTP/{head.major}.{head.minor} {head.status}, Content-Length: {head.contentLength}"⟩]
  | _, _ => []

/-- How many more chunks, none of them empty, a buffer can take at most before it is full: the
head and the body can fill it once each. -/
def patience (r : Reception) : Nat :=
  let room := r.buffer.capacity - r.held
  if r.head.isSome then room else room + r.buffer.capacity + 1

/-- A chunk of a started response after which more are needed uses patience up. -/
theorem patience_feed_lt {r after : Reception} {index : Nat} {chunk : Bytes}
    (hindex : index ≠ 0) (hchunk : chunk ≠ [])
    (hfeed : r.feed index chunk = (after, .ok .needMore)) :
  after.patience < r.patience
  := by
  have hlength : 0 < chunk.length := List.length_pos_iff.mpr hchunk
  unfold feed take at hfeed
  rw [if_neg hindex] at hfeed
  dsimp only at hfeed
  split at hfeed
  · simp at hfeed
  · rename_i hfits
    split at hfeed
    · rename_i head hhead
      obtain ⟨rfl, -⟩ := Prod.mk.inj hfeed
      simp only [append] at hhead
      simp only [patience, append, hhead, Option.isSome_some, if_true, Buffer.capacity_write]
      omega
    · rename_i hhead
      simp only [append] at hhead
      split at hfeed
      · obtain ⟨rfl, -⟩ := Prod.mk.inj hfeed
        simp only [patience, append, hhead, Option.isSome_none, Bool.false_eq_true, if_false,
          Buffer.capacity_write]
        omega
      · split at hfeed
        · simp at hfeed
        · obtain ⟨rfl, -⟩ := Prod.mk.inj hfeed
          simp only [patience, append, enterBody, hhead, Option.isSome_some, Option.isSome_none,
            Bool.false_eq_true, if_true, if_false, Buffer.capacity_write]
          omega

end Reception

end FirmwareUpdate
