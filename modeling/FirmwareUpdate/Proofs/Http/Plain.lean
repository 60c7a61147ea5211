import FirmwareUpdate.Bench.Peer
import FirmwareUpdate.Proofs.Http.Reception
import FirmwareUpdate.Proofs.Text.Decimal
import FirmwareUpdate.Proofs.Text.Lines
import FirmwareUpdate.Proofs.Text.Utf8

/-!
# Plain responses

A successful response whose head is a status line and the length of its body is read with this
length and this body, whatever the body is.
-/

namespace FirmwareUpdate

section

variable {α : Type _} [BEq α] {mark : List α}

theorem Text.splitAtFirst_cons_of_none {a : α} {text : List α}
    (h : mark.isPrefixOf? (a :: text) = none) :
  splitAtFirst mark (a :: text)
    = (splitAtFirst mark text).map fun (start, after) => (a :: start, after)
  := by
  rw [splitAtFirst, h]

/-- A text that does not hold the first element of a mark is not cut before its end. -/
theorem Text.splitAtFirst_skip [LawfulBEq α] {m : α} {before : List α} (h : m ∉ before)
    (hmark : mark.head? = some m) (text : List α) :
  splitAtFirst mark (before ++ text)
    = (splitAtFirst mark text).map fun (start, after) => (before ++ start, after)
  := by
  obtain ⟨more, rfl⟩ := List.head?_eq_some_iff.mp hmark
  induction before with
  | nil => simp
  | cons a before ih =>
      rw [List.mem_cons, not_or] at h
      have hstart : (m :: more).isPrefixOf? (a :: (before ++ text)) = none := by
        rw [List.isPrefixOf?, if_neg (by simpa using h.1)]
      rw [List.cons_append, splitAtFirst_cons_of_none hstart, ih h.2, Option.map_map]
      rfl

end

/-- A byte that stands for no letter of a text in ASCII. -/
theorem Utf8.not_mem_encode {text : List Char} {b : UInt8} (hascii : ∀ c ∈ text, c.toNat < 128)
    (h : ∀ c ∈ text, c.toNat ≠ b.toNat) :
  b ∉ encode text
  := by
  intro hb
  obtain ⟨c, hc, hmem⟩ := List.mem_flatMap.mp hb
  have hone : c.val.toNat ≤ 127 := Nat.le_of_lt_succ (hascii c hc)
  rw [String.utf8EncodeChar, if_pos hone, List.mem_singleton] at hmem
  apply h c hc
  rw [hmem, toNat_ofNat (by omega)]
  rfl

namespace Bench

/-- The first line of a successful response. -/
def statusLine : List Char :=
  "HTTP/1.1 200 OK".toList

/-- The line that declares the length of a body. -/
def lengthLine (n : Nat) : List Char :=
  "Content-Length: ".toList ++ Text.decimal n

theorem toNat_lengthLine {n : Nat} {c : Char} (h : c ∈ lengthLine n) :
  32 ≤ c.toNat ∧ c.toNat < 128
  := by
  have hname : ("Content-Length: ".toList.all fun c => 32 ≤ c.toNat ∧ c.toNat < 128) = true := by
    decide +kernel
  obtain h | h := List.mem_append.mp h
  · exact of_decide_eq_true (List.all_eq_true.mp hname c h)
  · obtain ⟨hlow, hhigh⟩ := Text.toNat_of_isDigit (Text.isDigit_decimal h)
    omega

/-- The head of a successful response with a body of so many bytes. -/
def okHead (n : Nat) : List Char :=
  statusLine ++ '\r' :: '\n' :: lengthLine n

theorem encode_okHead (n : Nat) :
  Utf8.encode (okHead n)
    = Utf8.encode statusLine ++ 13 :: 10 :: Utf8.encode (lengthLine n)
  := by
  rw [okHead, Utf8.encode_append]
  rfl

theorem okResponse_eq (body : Bytes) :
  okResponse body = Utf8.encode (okHead body.length) ++ Head.terminator ++ body
  := by
  have htext : (s!"HTTP/1.1 200 OK\r\nContent-Length: {body.length}\r\n\r\n").toList
      = okHead body.length ++ ['\r', '\n', '\r', '\n'] := by
    rw [String.toList_append, String.toList_append]
    change _ ++ (Nat.repr body.length).toList ++ _ = _
    rw [Text.toList_repr]
    rfl
  rw [okResponse, utf8, htext, Utf8.encode_append]
  rfl

/-- The head ends where it was put together with the body. -/
theorem splitAtFirst_okResponse (body : Bytes) :
  Text.splitAtFirst Head.terminator (okResponse body)
    = some (Utf8.encode (okHead body.length), body)
  := by
  have hstatus : (13 : UInt8) ∉ Utf8.encode statusLine := by decide
  have hlength : (13 : UInt8) ∉ Utf8.encode (lengthLine body.length) := by
    apply Utf8.not_mem_encode
    · intro c hc
      apply (toNat_lengthLine hc).2
    · intro c hc heq
      have hlow := (toNat_lengthLine hc).1
      rw [heq] at hlow
      apply absurd hlow
      decide
  -- what follows the status line is not the terminator
  have hpair : ∀ text, Text.splitAtFirst Head.terminator
      (13 :: 10 :: (Utf8.encode (lengthLine body.length) ++ text))
        = (Text.splitAtFirst Head.terminator (Utf8.encode (lengthLine body.length) ++ text)).map
          fun cut => (13 :: 10 :: cut.1, cut.2) := by
    intro text
    obtain ⟨rest, hrest⟩ : ∃ rest, Utf8.encode (lengthLine body.length) = 67 :: rest := ⟨_, rfl⟩
    rw [hrest, Text.splitAtFirst_cons_of_none (by rfl), Text.splitAtFirst_cons_of_none (by rfl),
      Option.map_map]
    rfl
  have hfound : Text.splitAtFirst Head.terminator (Head.terminator ++ body) = some ([], body) :=
    rfl
  have htext : okResponse body = Utf8.encode statusLine
      ++ 13 :: 10 :: (Utf8.encode (lengthLine body.length) ++ (Head.terminator ++ body)) := by
    rw [okResponse_eq, encode_okHead]
    simp only [List.append_assoc, List.cons_append]
  rw [htext, Text.splitAtFirst_skip hstatus rfl, hpair, Text.splitAtFirst_skip hlength rfl,
    hfound, encode_okHead]
  simp only [Option.map_some, List.append_nil]

/-- What a device reads in the head. -/
theorem ofBytes_okHead {n : Nat} (h : n < UInt64.size) :
  Head.ofBytes (Utf8.encode (okHead n)) = .ok ⟨1, 1, 200, UInt64.ofNat n⟩
  := by
  have hlines : Text.splitHead (okHead n) = [statusLine, lengthLine n] := by
    have hlength : '\r' ∉ lengthLine n := by
      intro hmem
      apply absurd (toNat_lengthLine hmem).1
      decide
    rw [okHead, Text.splitHead_append (by decide), Text.splitHead_of_not_mem hlength]
  have hstatus : Head.readStatusLine statusLine = some (1, 1, 200) := by decide +kernel
  have hdeclared : Head.declaredLength? [lengthLine n] = some (UInt64.ofNat n) := by
    have hsplit : Text.splitOnce ':' (lengthLine n)
        = some ("Content-Length".toList, ' ' :: Text.decimal n) := 
        Text.splitOnce_append (show ':' ∉ "Content-Length".toList by decide) _
    have htrim : Text.trim (' ' :: Text.decimal n) = Text.decimal n := by
      change Text.trim (Text.decimal n) = Text.decimal n
      apply Text.trim_of_not_blank
      intro c hc
      apply Text.isBlank_of_isDigit (Text.isDigit_decimal hc)
    have hread := Text.readBelow?_decimal h
    have hname : Head.isLengthName "Content-Length".toList = true := by decide +kernel
    rw [Head.declaredLength?, List.filterMap_cons_some hsplit, List.filterMap_nil,
      List.find?_cons_of_pos (by exact hname)]
    change (Text.readBelow? UInt64.size (Text.trim (' ' :: Text.decimal n)) >>= fun n =>
      some (UInt64.ofNat n)) = _
    rw [htrim, hread]
    rfl
  rw [Head.ofBytes, Utf8.decodeLossy_encode, Head.ofText, hlines]
  dsimp only
  rw [hstatus]
  dsimp only
  rw [if_neg (by decide), if_neg (by decide), hdeclared]

/-- A successful response is read with its body. -/
theorem response?_okResponse {body : Bytes} (h : body.length < UInt64.size) :
  response? (okResponse body) = some (⟨1, 1, 200, UInt64.ofNat body.length⟩, body)
  := by
  rw [response?, splitAtFirst_okResponse]
  dsimp only
  rw [ofBytes_okHead h]

/-- The head of a response with a short body is short. -/
theorem length_okResponse_le {body : Bytes} (h : body.length < 1000) :
  (okResponse body).length ≤ 40 + body.length
  := by
  have hascii : (Utf8.encode (lengthLine body.length)).length = (lengthLine body.length).length :=
    Utf8.length_encode_of_ascii fun c hc => (toNat_lengthLine hc).2
  have hdigits : (Text.decimal body.length).length ≤ 3 := Text.length_decimal_le (by decide) h
  have hstatus : (Utf8.encode statusLine).length = 15 := rfl
  have hterminator : Head.terminator.length = 4 := rfl
  have hname : "Content-Length: ".toList.length = 16 := rfl
  have hlength : (lengthLine body.length).length
      = "Content-Length: ".toList.length + (Text.decimal body.length).length := List.length_append
  rw [okResponse_eq, encode_okHead]
  simp only [List.length_append, List.length_cons]
  omega

end Bench

end FirmwareUpdate
