import FirmwareUpdate.Text.Hex

/-!
# SHA-256

The digest is computed over a stream: bytes are absorbed in any pieces, whole blocks of 64
bytes are mixed into the state at once, and the rest waits for more. Absorbing pieces one
after the other is absorbing their concatenation, so the digest of a sequence is that of the
stream that absorbed it.
-/

namespace FirmwareUpdate.Sha256

/-- The eight working words. -/
structure Words where
  a : UInt32
  b : UInt32
  c : UInt32
  d : UInt32
  e : UInt32
  f : UInt32
  g : UInt32
  h : UInt32
deriving DecidableEq, Repr

/-- The words added componentwise. -/
def Words.add (x y : Words) : Words :=
  ⟨x.a + y.a, x.b + y.b, x.c + y.c, x.d + y.d, x.e + y.e, x.f + y.f, x.g + y.g, x.h + y.h⟩

/-- The words a stream starts with. -/
def initial : Words :=
  ⟨0x6a09e667, 0xbb67ae85, 0x3c6ef372, 0xa54ff53a, 0x510e527f, 0x9b05688c, 0x1f83d9ab,
    0x5be0cd19⟩

/-- The constants of the 64 rounds. -/
def constants : List UInt32 :=
  [0x428a2f98, 0x71374491, 0xb5c0fbcf, 0xe9b5dba5, 0x3956c25b, 0x59f111f1, 0x923f82a4,
    0xab1c5ed5, 0xd807aa98, 0x12835b01, 0x243185be, 0x550c7dc3, 0x72be5d74, 0x80deb1fe,
    0x9bdc06a7, 0xc19bf174, 0xe49b69c1, 0xefbe4786, 0x0fc19dc6, 0x240ca1cc, 0x2de92c6f,
    0x4a7484aa, 0x5cb0a9dc, 0x76f988da, 0x983e5152, 0xa831c66d, 0xb00327c8, 0xbf597fc7,
    0xc6e00bf3, 0xd5a79147, 0x06ca6351, 0x14292967, 0x27b70a85, 0x2e1b2138, 0x4d2c6dfc,
    0x53380d13, 0x650a7354, 0x766a0abb, 0x81c2c92e, 0x92722c85, 0xa2bfe8a1, 0xa81a664b,
    0xc24b8b70, 0xc76c51a3, 0xd192e819, 0xd6990624, 0xf40e3585, 0x106aa070, 0x19a4c116,
    0x1e376c08, 0x2748774c, 0x34b0bcb5, 0x391c0cb3, 0x4ed8aa4a, 0x5b9cca4f, 0x682e6ff3,
    0x748f82ee, 0x78a5636f, 0x84c87814, 0x8cc70208, 0x90befffa, 0xa4506ceb, 0xbef9a3f7,
    0xc67178f2]

/-- The word rotated to the right by `n` bits. -/
def rotate (x : UInt32) (n : UInt32) : UInt32 :=
  (x >>> n) ||| (x <<< (32 - n))

/-- The next word of the schedule from the sixteen before it, the most recent first. -/
def nextWord (recent : List UInt32) : UInt32 :=
  let x := recent.getD 14 0
  let y := recent.getD 1 0
  let s0 := rotate x 7 ^^^ rotate x 18 ^^^ (x >>> 3)
  let s1 := rotate y 17 ^^^ rotate y 19 ^^^ (y >>> 10)
  recent.getD 15 0 + s0 + recent.getD 6 0 + s1

/-- The schedule of a block, the most recent word first, with `n` more words. -/
def extend : Nat → List UInt32 → List UInt32
  | 0, recent => recent
  | n + 1, recent => extend n (nextWord recent :: recent)

/-- One round with the constant `k` and the schedule word `w`. -/
def round (s : Words) (k w : UInt32) : Words :=
  let s1 := rotate s.e 6 ^^^ rotate s.e 11 ^^^ rotate s.e 25
  let choice := (s.e &&& s.f) ^^^ ((~~~s.e) &&& s.g)
  let t1 := s.h + s1 + choice + k + w
  let s0 := rotate s.a 2 ^^^ rotate s.a 13 ^^^ rotate s.a 22
  let majority := (s.a &&& s.b) ^^^ (s.a &&& s.c) ^^^ (s.b &&& s.c)
  ⟨t1 + (s0 + majority), s.a, s.b, s.c, s.d + t1, s.e, s.f, s.g⟩

/-- The rounds for the given constants and schedule words. -/
def rounds : Words → List UInt32 → List UInt32 → Words
  | s, k :: ks, w :: ws => rounds (round s k w) ks ws
  | s, _, _ => s

/-- The big-endian words of a block, the last first, in front of `recent`. -/
def blockWords : Bytes → List UInt32 → List UInt32
  | a :: b :: c :: d :: rest, recent =>
    blockWords rest
      ((a.toUInt32 <<< 24 ||| b.toUInt32 <<< 16 ||| c.toUInt32 <<< 8 ||| d.toUInt32) :: recent)
  | _, recent => recent

/-- The state after one block of 64 bytes. -/
def compress (s : Words) (block : Bytes) : Words :=
  s.add (rounds s constants (extend 48 (blockWords block [])).reverse)

/-- The state after all whole blocks of the bytes, and the bytes that are left over. -/
def absorb (s : Words) (bytes : Bytes) : Words × Bytes :=
  match h : bytes.drop 63 with
  | [] => (s, bytes)
  | _ :: rest =>
    have : rest.length < bytes.length := by
      have := congrArg List.length h
      simp at this
      omega
    absorb (compress s (bytes.take 64)) rest
termination_by bytes.length

/-- A digest under way: the state after the whole blocks, the bytes after them, and the number
of all bytes. -/
structure Stream where
  words : Words
  rest : Bytes
  count : Nat
deriving DecidableEq, Repr

/-- A stream without bytes. -/
def Stream.empty : Stream :=
  ⟨initial, [], 0⟩

/-- The stream with more bytes. -/
def Stream.update (s : Stream) (bytes : Bytes) : Stream :=
  let (words, rest) := absorb s.words (s.rest ++ bytes)
  ⟨words, rest, s.count + bytes.length⟩

/-- The big-endian bytes of a number, `width` of them. -/
def bigEndian (width n : Nat) : Bytes :=
  (List.range width).map fun i => UInt8.ofNat (n >>> (8 * (width - 1 - i)))

/-- What is appended to the last block: a one bit, zeros, and the length in bits. -/
def padding (count : Nat) : Bytes :=
  0x80 :: List.replicate ((119 - count % 64) % 64) 0 ++ bigEndian 8 (8 * count)

/-- The bytes of the words. -/
def Words.toBytes (s : Words) : Bytes :=
  [s.a, s.b, s.c, s.d, s.e, s.f, s.g, s.h].flatMap fun w => bigEndian 4 w.toNat

/-- The digest of the bytes a stream has absorbed. -/
def Stream.digest (s : Stream) : Bytes :=
  (absorb s.words (s.rest ++ padding s.count)).1.toBytes

/-- The digest of a byte sequence. -/
def digest (bytes : Bytes) : Bytes :=
  (Stream.empty.update bytes).digest

/-- The digest of a byte sequence in hexadecimal. -/
def hex (bytes : Bytes) : String :=
  Hex.encode (digest bytes)

end FirmwareUpdate.Sha256
