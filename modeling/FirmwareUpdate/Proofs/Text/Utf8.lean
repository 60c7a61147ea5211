import FirmwareUpdate.Text.Utf8
import Mathlib.Tactic.Common

/-!
# Reading back UTF-8

The bytes of a text are read back as the text. What a character is encoded as is followed byte by
byte: its first byte starts a character of as many bytes, and each later byte continues it.
-/

namespace FirmwareUpdate.Utf8

/-- What is read with the next byte, and then from what it goes on to. -/
theorem decodeFrom_cons (pending : Option Pending) (b : UInt8) (rest : Bytes) :
  decodeFrom pending (b :: rest)
    = (advance pending b).1 ++ decodeFrom (advance pending b).2 rest
  := by
  cases pending with
  | none => rfl
  | some p => rfl

/-- The byte of a small number. -/
theorem toNat_ofNat {n : Nat} (h : n < 256) :
  (UInt8.ofNat n).toNat = n
  := by
  rw [UInt8.toNat_ofNat']
  apply Nat.mod_eq_of_lt h

/-- What a byte starts, in terms of its number. -/
theorem start_eq {b : UInt8} {n : Nat} (h : b.toNat = n) :
  start b = if n < 128 then .whole (Char.ofNat n)
    else if n < 194 then .stray
    else if n < 224 then .first ⟨n - 192, 0x80, 0xBF, 0⟩
    else if n = 224 then .first ⟨0, 0xA0, 0xBF, 1⟩
    else if n = 237 then .first ⟨13, 0x80, 0x9F, 1⟩
    else if n < 240 then .first ⟨n - 224, 0x80, 0xBF, 1⟩
    else if n = 240 then .first ⟨0, 0x90, 0xBF, 2⟩
    else if n < 244 then .first ⟨n - 240, 0x80, 0xBF, 2⟩
    else if n = 244 then .first ⟨4, 0x80, 0x8F, 2⟩
    else .stray
  := by
  unfold start
  simp only [UInt8.lt_iff_toNat_lt, beq_iff_eq, ← UInt8.toNat_inj, h]
  rfl

/-- A byte that is a character. -/
theorem advance_whole {b : UInt8} {c : Char} (h : start b = .whole c) :
  advance none b = ([some c], none)
  := by
  rw [advance, begin, h]

/-- A byte that starts a longer character. -/
theorem advance_first {b : UInt8} {p : Pending} (h : start b = .first p) :
  advance none b = ([], some p)
  := by
  rw [advance, begin, h]

/-- A byte within a character. -/
structure Continues (p : Pending) (b : UInt8) (n : Nat) : Prop where
  low_le : p.low ≤ b
  le_high : b ≤ p.high
  toNat_eq : b.toNat = n + 128

/-- The byte that ends a character. -/
theorem Continues.advance_last {p : Pending} {b : UInt8} {n : Nat} (h : Continues p b n)
    (hdue : p.due = 0) :
  advance (some p) b = ([some (Char.ofNat (p.bits * 64 + n))], none)
  := by
  have hbits : b.toNat - 128 = n := Nat.sub_eq_of_eq_add h.toNat_eq
  rw [advance, if_pos (by simp [h.low_le, h.le_high])]
  dsimp only
  rw [hdue, hbits]

/-- A byte after which more are due. -/
theorem Continues.advance_next {p : Pending} {b : UInt8} {n due : Nat} (h : Continues p b n)
    (hdue : p.due = due + 1) :
  advance (some p) b = ([], some ⟨p.bits * 64 + n, 0x80, 0xBF, due⟩)
  := by
  have hbits : b.toNat - 128 = n := Nat.sub_eq_of_eq_add h.toNat_eq
  rw [advance, if_pos (by simp [h.low_le, h.le_high])]
  dsimp only
  rw [hdue, hbits]

section

variable {v : Nat}

/-- The six bits of a byte within a character, between bounds. -/
theorem continues_ofNat {p : Pending} (hlow : p.low.toNat ≤ v % 64 + 128)
    (hhigh : v % 64 + 128 ≤ p.high.toNat) :
  Continues p (UInt8.ofNat (v % 64 + 128)) (v % 64)
  := by
  have hb : (UInt8.ofNat (v % 64 + 128)).toNat = v % 64 + 128 := toNat_ofNat (by omega)
  refine ⟨?_, ?_, hb⟩
  · rwa [UInt8.le_iff_toNat_le, hb]
  · rwa [UInt8.le_iff_toNat_le, hb]

/-- Any six bits continue a character whose first two bytes have been read. -/
theorem continues_tail (bits due v : Nat) :
  Continues ⟨bits, 0x80, 0xBF, due⟩ (UInt8.ofNat (v % 64 + 128)) (v % 64)
  := by
  apply continues_ofNat
  · change 128 ≤ _
    omega
  · change _ ≤ 191
    omega

/-- The first of two bytes. -/
theorem start_two (hlow : 0x80 ≤ v) (hhigh : v ≤ 0x7FF) :
  start (UInt8.ofNat (v / 64 % 32 + 192)) = .first ⟨v / 64, 0x80, 0xBF, 0⟩
  := by
  have hbits : v / 64 % 32 + 192 - 192 = v / 64 := by omega
  rw [start_eq (toNat_ofNat (by omega)), if_neg (by omega), if_neg (by omega), if_pos (by omega),
    hbits]

/-- The first of three bytes, which the second one continues. Overlong forms and surrogates are left
out by the range of the second byte. -/
theorem start_three (hlow : 0x7FF < v) (hhigh : v ≤ 0xFFFF) (hvalid : v < 0xD800 ∨ 0xDFFF < v) :
  ∃ low high, start (UInt8.ofNat (v / 4096 % 16 + 224)) = .first ⟨v / 4096, low, high, 1⟩
    ∧ Continues ⟨v / 4096, low, high, 1⟩ (UInt8.ofNat (v / 64 % 64 + 128)) (v / 64 % 64)
  := by
  have hbits : v / 4096 % 16 + 224 - 224 = v / 4096 := by omega
  rw [start_eq (toNat_ofNat (by omega)), if_neg (by omega), if_neg (by omega), if_neg (by omega)]
  split
  case isTrue hfirst =>
    have hzero : v / 4096 = 0 := by omega
    refine ⟨0xA0, 0xBF, by rw [hzero], continues_ofNat ?_ ?_⟩
    · change 160 ≤ _
      omega
    · change _ ≤ 191
      omega
  split
  case isTrue hfirst =>
    have hthirteen : v / 4096 = 13 := by omega
    refine ⟨0x80, 0x9F, by rw [hthirteen], continues_ofNat ?_ ?_⟩
    · change 128 ≤ _
      omega
    · change _ ≤ 159
      omega
  rw [if_pos (by omega), hbits]
  exact ⟨_, _, rfl, continues_tail _ _ _⟩

/-- The first of four bytes, which the second one continues. Overlong forms and what is above the
last code point are left out by the range of the second byte. -/
theorem start_four (hlow : 0xFFFF < v) (hhigh : v < 0x110000) :
  ∃ low high, start (UInt8.ofNat (v / 262144 % 8 + 240)) = .first ⟨v / 262144, low, high, 2⟩
    ∧ Continues ⟨v / 262144, low, high, 2⟩ (UInt8.ofNat (v / 4096 % 64 + 128)) (v / 4096 % 64)
  := by
  have hbits : v / 262144 % 8 + 240 - 240 = v / 262144 := by omega
  rw [start_eq (toNat_ofNat (by omega)), if_neg (by omega), if_neg (by omega), if_neg (by omega),
    if_neg (by omega), if_neg (by omega), if_neg (by omega)]
  split
  case isTrue hfirst =>
    have hzero : v / 262144 = 0 := by omega
    refine ⟨0x90, 0xBF, by rw [hzero], continues_ofNat ?_ ?_⟩
    · change 144 ≤ _
      omega
    · change _ ≤ 191
      omega
  split
  case isTrue hfirst =>
    rw [hbits]
    exact ⟨_, _, rfl, continues_tail _ _ _⟩
  have hfour : v / 262144 = 4 := by omega
  rw [if_pos (by omega)]
  refine ⟨0x80, 0x8F, by rw [hfour], continues_ofNat ?_ ?_⟩
  · change 128 ≤ _
    omega
  · change _ ≤ 143
    omega

end

/-- The bytes of a character are read as the character. -/
theorem decodeFrom_encodeChar (c : Char) (rest : Bytes) :
  decodeFrom none (String.utf8EncodeChar c ++ rest) = some c :: decodeFrom none rest
  := by
  obtain ⟨v, hv⟩ : ∃ v, c.val.toNat = v := ⟨_, rfl⟩
  have hchar : Char.ofNat v = c := by
    rw [← hv]
    apply Char.ofNat_toNat
  have hvalid : v < 0xD800 ∨ (0xDFFF < v ∧ v < 0x110000) := by
    rw [← hv]
    exact c.valid
  unfold String.utf8EncodeChar
  rw [hv]
  dsimp only
  split
  case isTrue hone =>
    have hstart : start (UInt8.ofNat v) = .whole (Char.ofNat v) := by
      rw [start_eq (toNat_ofNat (by omega)), if_pos (by omega)]
    rw [List.singleton_append, decodeFrom_cons, advance_whole hstart, hchar]
    rfl
  case isFalse hone =>
  split
  case isTrue htwo =>
    have hbits : v / 64 * 64 + v % 64 = v := by omega
    simp only [List.cons_append, List.nil_append, decodeFrom_cons,
      advance_first (start_two (by omega) htwo), (continues_tail _ _ _).advance_last rfl]
    rw [hbits, hchar]
  case isFalse htwo =>
  split
  case isTrue hthree =>
    obtain ⟨low, high, hstart, hsecond⟩ := start_three (by omega) hthree (by omega)
    have hbits : (v / 4096 * 64 + v / 64 % 64) * 64 + v % 64 = v := by omega
    simp only [List.cons_append, List.nil_append, decodeFrom_cons, advance_first hstart,
      hsecond.advance_next rfl, (continues_tail _ _ _).advance_last rfl]
    rw [hbits, hchar]
  case isFalse hthree =>
    obtain ⟨low, high, hstart, hsecond⟩ := start_four (v := v) (by omega) (by omega)
    have hbits : ((v / 262144 * 64 + v / 4096 % 64) * 64 + v / 64 % 64) * 64 + v % 64 = v := by
      omega
    simp only [List.cons_append, List.nil_append, decodeFrom_cons, advance_first hstart,
      hsecond.advance_next rfl, (continues_tail _ _ _).advance_next rfl,
      (continues_tail _ _ _).advance_last rfl]
    rw [hbits, hchar]

theorem encode_append (text more : List Char) :
  encode (text ++ more) = encode text ++ encode more
  := List.flatMap_append

theorem encode_cons (c : Char) (text : List Char) :
  encode (c :: text) = String.utf8EncodeChar c ++ encode text
  := List.flatMap_cons

theorem encode_singleton (c : Char) :
  encode [c] = String.utf8EncodeChar c
  := List.flatMap_singleton ..

/-- The bytes of a text are read as the text. -/
theorem decodeLossy_encode (text : List Char) :
  decodeLossy (encode text) = text
  := by
  unfold decodeLossy
  induction text with
  | nil => rfl
  | cons c text ih =>
      rw [encode_cons, decodeFrom_encodeChar, List.map_cons, ih]
      rfl

/-- Strictly read, too, the bytes of a text are the text. -/
theorem decode?_encode (text : List Char) :
  decode? (encode text) = some text
  := by
  unfold decode?
  induction text with
  | nil => rfl
  | cons c text ih =>
      rw [encode_cons, decodeFrom_encodeChar, List.mapM_cons, ih]
      rfl

/-- Two texts with the same bytes are the same. -/
theorem encode_injective : Function.Injective encode :=
  Function.LeftInverse.injective decodeLossy_encode

theorem utf8_append (text more : String) :
  utf8 (text ++ more) = utf8 text ++ utf8 more
  := by
  rw [utf8, String.toList_append, encode_append]
  rfl

theorem decodeLossy_utf8 (text : String) :
  decodeLossy (utf8 text) = text.toList
  := decodeLossy_encode text.toList

/-- The letters of a text in ASCII are its bytes. -/
theorem encode_of_ascii {text : List Char} (h : ∀ c ∈ text, c.toNat < 128) :
  encode text = text.map fun c => UInt8.ofNat c.toNat
  := by
  induction text with
  | nil => rfl
  | cons c text ih =>
      have hc : c.val.toNat ≤ 127 := Nat.le_of_lt_succ (h c List.mem_cons_self)
      rw [encode_cons, ih fun d hd => h d (List.mem_cons_of_mem c hd), String.utf8EncodeChar,
        if_pos hc, List.map_cons, List.singleton_append]
      rfl

/-- Each letter of a text in ASCII is one byte. -/
theorem length_encode_of_ascii {text : List Char} (h : ∀ c ∈ text, c.toNat < 128) :
  (encode text).length = text.length
  := by
  rw [encode_of_ascii h, List.length_map]

/-- The bytes of a text in ASCII, of which each byte is a letter. -/
theorem encode_ascii {bytes : Bytes} (h : ∀ b ∈ bytes, b.toNat < 128) :
  encode (bytes.map fun b => Char.ofNat b.toNat) = bytes
  := by
  have hletter : ∀ n < 128, String.utf8EncodeChar (Char.ofNat n) = [UInt8.ofNat n] := by
    decide +kernel
  induction bytes with
  | nil => rfl
  | cons b bytes ih =>
      rw [List.map_cons, encode_cons, hletter _ (h b List.mem_cons_self),
        ih fun c hc => h c (List.mem_cons_of_mem b hc), UInt8.ofNat_toNat, List.singleton_append]

/-- The number of the bytes of a text. -/
theorem length_utf8 (text : String) :
  (utf8 text).length = text.utf8ByteSize
  := by
  have hbytes : text.toByteArray = (utf8 text).toByteArray := by
    rw [← String.ofList_toList (s := text), String.toByteArray_ofList, List.utf8Encode, utf8,
      String.toList_ofList, encode]
  rw [String.utf8ByteSize, hbytes, List.size_toByteArray]

end FirmwareUpdate.Utf8
