import FirmwareUpdate.Http.Head
import FirmwareUpdate.Proofs.Text.Ascii
import FirmwareUpdate.Proofs.Text.Decimal
import FirmwareUpdate.Proofs.Text.Split

/-!
# Heads that are understood

The head of a response is read whatever the reason phrase and the other header lines are, and
however the line that declares the length is spelled. Bytes that are no text do not matter, since
lines end and names end at bytes in ASCII, which no other byte stands for. The version is checked
before the status, and the status before the header lines are looked at.

The main statement is `ofBytes_wellFormed`.
-/

namespace FirmwareUpdate.Head

/-! ### Status lines -/

/-- The bytes of a status line, where any bytes stand for the reason. -/
def statusBytes (major minor : UInt32) (status : UInt16) (reason : Bytes) : Bytes :=
  Utf8.encode (versionMark ++ (Text.decimal major.toNat ++ '.' :: Text.decimal minor.toNat)
    ++ ' ' :: Text.decimal status.toNat) ++ 32 :: reason

theorem number32?_decimal (n : UInt32) :
  number32? (Text.decimal n.toNat) = some n
  := by
  rw [number32?, Text.readBelow?_decimal n.toNat_lt_size, Option.map_some, UInt32.ofNat_toNat]

theorem decodeLossy_statusBytes (major minor : UInt32) (status : UInt16) (reason : Bytes) :
  Utf8.decodeLossy (statusBytes major minor status reason)
    = versionMark ++ ((Text.decimal major.toNat ++ '.' :: Text.decimal minor.toNat)
      ++ ' ' :: (Text.decimal status.toNat ++ ' ' :: Utf8.decodeLossy reason))
  := by
  rw [statusBytes, Utf8.decodeLossy_append_ascii (by decide), Utf8.decodeLossy_encode]
  simp only [List.append_assoc, List.cons_append]
  rfl

/-- The version and the status are read whatever the reason is. -/
theorem readStatusLine_statusBytes (major minor : UInt32) (status : UInt16) (reason : Bytes) :
  readStatusLine (Utf8.decodeLossy (statusBytes major minor status reason))
    = some (major, minor, status)
  := by
  have hdecimal : ∀ {n : Nat}, ∀ c ∈ Text.decimal n, Text.isBlank c = false :=
    fun c hc => Text.isBlank_of_isDigit (Text.isDigit_decimal hc)
  have hmark : '.' ∉ Text.decimal major.toNat := by
    intro hmem
    cases Text.isDigit_decimal hmem
  have hversion : ∀ c ∈ Text.decimal major.toNat ++ '.' :: Text.decimal minor.toNat,
      Text.isBlank c = false := by
    intro c hc
    obtain hc | rfl | hc := by simpa using hc
    · exact hdecimal c hc
    · rfl
    · exact hdecimal c hc
  have hwords := Text.words_append (by simp) hversion (c := ' ') rfl
    (Text.decimal status.toNat ++ ' ' :: Utf8.decodeLossy reason)
  rw [Text.words_append (Text.decimal_ne_nil _) hdecimal rfl] at hwords
  rw [readStatusLine, decodeLossy_statusBytes,
    List.isPrefixOf?_eq_some_iff_append_eq.mpr rfl]
  simp only [Option.bind_eq_bind, Option.bind_some, hwords, Text.splitOnce_append hmark,
    number32?_decimal, Text.readBelow?_decimal status.toNat_lt_size, UInt16.ofNat_toNat]
  rfl

/-! ### Lines -/

/-- A status line ends nowhere before its end. -/
theorem not_mem_statusBytes {reason : Bytes} (hreason : 13 ∉ reason) (major minor : UInt32)
    (status : UInt16) :
  '\r' ∉ Utf8.decodeLossy (statusBytes major minor status reason)
  := by
  have hdecimal : ∀ {n : Nat}, '\r' ∉ Text.decimal n :=
    fun hmem => by cases Text.isDigit_decimal hmem
  have hletters : '\r' ∉ Utf8.decodeLossy reason :=
    Utf8.not_mem_decodeLossy (b := 13) (by decide) (by decide) hreason
  have hmark : '\r' ∉ versionMark := by decide
  rw [decodeLossy_statusBytes]
  simp [hdecimal, hletters, hmark]

/-- The bytes of lines with a carriage return and a line feed between them. -/
def joined (lines : List Bytes) : Bytes :=
  [13, 10].intercalate lines

/-- A line is found again if it holds no carriage return. -/
theorem splitHead_joined_cons {line next : Bytes} (h : '\r' ∉ Utf8.decodeLossy line)
    (lines : List Bytes) :
  Text.splitHead (Utf8.decodeLossy (joined (line :: next :: lines)))
    = Utf8.decodeLossy line :: Text.splitHead (Utf8.decodeLossy (joined (next :: lines)))
  := by
  have hbytes : joined (line :: next :: lines)
      = line ++ 13 :: ([] ++ 10 :: joined (next :: lines)) := by
    rw [joined, List.intercalate_cons_cons, List.append_assoc]
    rfl
  rw [hbytes, Utf8.decodeLossy_append_ascii (by decide), Utf8.decodeLossy_append_ascii (by decide)]
  apply Text.splitHead_append h

theorem exists_splitHead_joined {line : Bytes} (h : '\r' ∉ Utf8.decodeLossy line)
    (lines : List Bytes) :
  ∃ more, Text.splitHead (Utf8.decodeLossy (joined (line :: lines)))
    = Utf8.decodeLossy line :: more
  := by
  cases lines with
  | nil =>
      refine ⟨[], ?_⟩
      rw [joined, List.intercalate_singleton]
      exact Text.splitHead_of_not_mem h
  | cons next lines => exact ⟨_, splitHead_joined_cons h lines⟩

theorem splitHead_joined_append {before : List Bytes}
    (h : ∀ line ∈ before, '\r' ∉ Utf8.decodeLossy line) (line : Bytes) (after : List Bytes) :
  Text.splitHead (Utf8.decodeLossy (joined (before ++ line :: after)))
    = before.map Utf8.decodeLossy
      ++ Text.splitHead (Utf8.decodeLossy (joined (line :: after)))
  := by
  induction before with
  | nil => rfl
  | cons first before ih =>
      obtain ⟨hfirst, hbefore⟩ := List.forall_mem_cons.mp h
      specialize ih hbefore
      rw [List.map_cons, List.cons_append, List.cons_append, ← ih]
      cases before with
      | nil => exact splitHead_joined_cons hfirst _
      | cons next before => exact splitHead_joined_cons hfirst _

/-! ### The line that declares the length -/

/-- Whether a header line has the name of the length. -/
def namesLength (line : Bytes) : Bool :=
  match Text.splitOnce 58 line with
  | some (name, _) => isLengthName (Utf8.decodeLossy name)
  | none => false

/-- White space that does not end a line. -/
def IsPadding (text : List Char) : Prop :=
  ∀ c ∈ text, Text.isBlank c = true ∧ c ≠ '\r'

instance (text : List Char) : Decidable (IsPadding text) :=
  List.decidableBAll _ text

/-- A line that declares a length: its name in letters of either case, a number with any zeros in
front, and white space around the two. -/
structure LengthLine where
  indent : List Char
  name : List Char
  gap : List Char
  lead : List Char
  zeros : Nat
  length : UInt64
  trail : List Char
  name_spells : name.map Char.toLower = "content-length".toList
  indent_padding : IsPadding indent
  gap_padding : IsPadding gap
  lead_padding : IsPadding lead
  trail_padding : IsPadding trail

namespace LengthLine

/-- The digits of the length. -/
def digits (line : LengthLine) : List Char :=
  List.replicate line.zeros '0' ++ Text.decimal line.length.toNat

def text (line : LengthLine) : List Char :=
  (line.indent ++ line.name ++ line.gap) ++ ':' :: (line.lead ++ line.digits ++ line.trail)

def bytes (line : LengthLine) : Bytes :=
  Utf8.encode line.text

variable (line : LengthLine)

theorem decodeLossy_bytes :
  Utf8.decodeLossy line.bytes = line.text
  := Utf8.decodeLossy_encode line.text

/-- The letters of the name are not blank, and none of them ends it. -/
theorem name_letters {c : Char} (h : c ∈ line.name) :
  Text.isBlank c = false ∧ c ≠ ':'
  := by
  have hlower : c.toLower ∈ "content-length".toList := by
    rw [← line.name_spells]
    exact List.mem_map_of_mem h
  have hletters :
      ("content-length".toList.all fun c => Text.isBlank c = false ∧ c ≠ ':') = true := by
    decide
  obtain ⟨hblank, hmark⟩ := of_decide_eq_true (List.all_eq_true.mp hletters _ hlower)
  constructor
  · rw [← Text.isBlank_toLower]
    exact hblank
  · rintro rfl
    exact hmark rfl

theorem isLengthName_name :
  isLengthName (line.indent ++ line.name ++ line.gap) = true
  := by
  rw [isLengthName, Text.trim_append_blanks fun c hc => (line.gap_padding c hc).1,
    Text.trim_blanks_append fun c hc => (line.indent_padding c hc).1,
    Text.trim_of_not_blank fun c hc => (line.name_letters hc).1, line.name_spells]
  apply beq_self_eq_true

theorem isDigit_digits {c : Char} (h : c ∈ line.digits) :
  c.isDigit = true
  := (Text.readDigits?_eq_some_iff.mp (Text.readDigits?_zeros_append _ _)).2.1 c h

/-- The number between the white space is the length. -/
theorem readBelow?_value :
  Text.readBelow? UInt64.size (Text.trim (line.lead ++ line.digits ++ line.trail))
    = some line.length.toNat
  := by
  rw [Text.trim_append_blanks fun c hc => (line.trail_padding c hc).1,
    Text.trim_blanks_append fun c hc => (line.lead_padding c hc).1,
    Text.trim_of_not_blank fun c hc => Text.isBlank_of_isDigit (line.isDigit_digits hc)]
  exact Text.readBelow?_of_readDigits? (Text.readDigits?_zeros_append _ _)
    line.length.toNat_lt_size

theorem splitOnce_text :
  Text.splitOnce ':' line.text
    = some (line.indent ++ line.name ++ line.gap, line.lead ++ line.digits ++ line.trail)
  := by
  have hpadding : ∀ {text : List Char}, IsPadding text → ':' ∉ text := by
    intro text h hmem
    cases (h ':' hmem).1
  apply Text.splitOnce_append
  simp only [List.mem_append, not_or]
  exact ⟨⟨hpadding line.indent_padding, fun hmem => (line.name_letters hmem).2 rfl⟩,
    hpadding line.gap_padding⟩

/-- The line ends nowhere before its end. -/
theorem not_mem_text :
  '\r' ∉ line.text
  := by
  have hpadding : ∀ {text : List Char}, IsPadding text → '\r' ∉ text :=
    fun h hmem => (h '\r' hmem).2 rfl
  have hname : '\r' ∉ line.name := fun hmem => by cases (line.name_letters hmem).1
  have hdigits : '\r' ∉ line.digits := fun hmem => by cases line.isDigit_digits hmem
  simp only [text, List.mem_append, List.mem_cons, not_or]
  exact ⟨⟨⟨hpadding line.indent_padding, hname⟩, hpadding line.gap_padding⟩, by decide,
    ⟨hpadding line.lead_padding, hdigits⟩, hpadding line.trail_padding⟩

end LengthLine

/-- The first line with the name of the length declares it. -/
theorem declaredLength?_append {before : List Bytes} (h : ∀ l ∈ before, namesLength l = false)
    (line : LengthLine) (more : List (List Char)) :
  declaredLength? (before.map Utf8.decodeLossy ++ line.text :: more) = some line.length
  := by
  have hbefore : ∀ part ∈ (before.map Utf8.decodeLossy).filterMap (Text.splitOnce ':'),
      ¬ isLengthName part.1 = true := by
    intro part hmem
    obtain ⟨_, htext, hcut⟩ := List.mem_filterMap.mp hmem
    obtain ⟨l, hl, rfl⟩ := List.mem_map.mp htext
    have hname := h l hl
    rw [namesLength] at hname
    rw [show ':' = Char.ofNat (58 : UInt8).toNat from rfl,
      Utf8.splitOnce_decodeLossy (by decide) (by decide)] at hcut
    obtain ⟨⟨nameBytes, valueBytes⟩, hparts, rfl⟩ := Option.map_eq_some_iff.mp hcut
    rw [hparts] at hname
    simpa using hname
  rw [declaredLength?, List.filterMap_append,
    List.filterMap_cons_some line.splitOnce_text]
  dsimp only
  rw [List.find?_append, List.find?_eq_none.mpr, Option.none_or,
    List.find?_cons_of_pos (by exact line.isLengthName_name)]
  · simp only [Option.bind_eq_bind, Option.bind_some, line.readBelow?_value, UInt64.ofNat_toNat]
    rfl
  · exact hbefore

/-! ### Heads -/

/-- What becomes of a head hangs on its status line first, and then on its header lines. -/
theorem ofBytes_joined {reason : Bytes} (hreason : 13 ∉ reason) (major minor : UInt32)
    (status : UInt16) (lines : List Bytes) :
  ofBytes (joined (statusBytes major minor status reason :: lines))
    = if major ≠ 1 then .error (.versionNotSupported major.toNat)
      else if status ≠ 200 then .error (.nonOkStatus status.toNat)
      else
        match declaredLength? (Text.splitHead (Utf8.decodeLossy
          (joined (statusBytes major minor status reason :: lines)))).tail with
        | none => .error .missingContentLength
        | some contentLength => .ok ⟨major, minor, status, contentLength⟩
  := by
  obtain ⟨more, hlines⟩ :=
    exists_splitHead_joined (not_mem_statusBytes hreason major minor status) lines
  rw [ofBytes, ofText, hlines]
  dsimp only
  rw [readStatusLine_statusBytes]
  rfl

/-- Whatever bytes without a carriage return stand for the reason:
* a head of version one and status 200 is accepted if one of its header lines declares a length,
  however it is spelled, and none of those before it has the name of the length, whatever the other
  lines are;
* a head of another version is rejected for its version, whatever its status and its header lines
  are;
* a head of version one and another status is rejected for its status, whatever its header lines
  are. -/
theorem ofBytes_wellFormed {reason : Bytes} (hreason : 13 ∉ reason) :
  (∀ (minor : UInt32) (before after : List Bytes) (line : LengthLine),
    (∀ l ∈ before, 13 ∉ l ∧ namesLength l = false) →
    ofBytes (joined (statusBytes 1 minor 200 reason :: before ++ line.bytes :: after))
      = .ok ⟨1, minor, 200, line.length⟩)
  ∧ (∀ (major minor : UInt32) (status : UInt16) (lines : List Bytes), major ≠ 1 →
    ofBytes (joined (statusBytes major minor status reason :: lines))
      = .error (.versionNotSupported major.toNat))
  ∧ ∀ (minor : UInt32) (status : UInt16) (lines : List Bytes), status ≠ 200 →
    ofBytes (joined (statusBytes 1 minor status reason :: lines))
      = .error (.nonOkStatus status.toNat)
  := by
  refine ⟨fun minor before after line hbefore => ?_, fun major minor status lines hmajor => ?_,
    fun minor status lines hstatus => ?_⟩
  · have hstatus := not_mem_statusBytes hreason 1 minor 200
    have hwhole : ∀ l ∈ statusBytes 1 minor 200 reason :: before, '\r' ∉ Utf8.decodeLossy l :=
      List.forall_mem_cons.mpr ⟨hstatus, fun l hl =>
        Utf8.not_mem_decodeLossy (b := 13) (by decide) (by decide) (hbefore l hl).1⟩
    have hline : '\r' ∉ Utf8.decodeLossy line.bytes := by
      rw [line.decodeLossy_bytes]
      exact line.not_mem_text
    obtain ⟨more, hlines⟩ := exists_splitHead_joined hline after
    rw [List.cons_append, ofBytes_joined hreason, if_neg (by simp), if_neg (by simp),
      ← List.cons_append, splitHead_joined_append hwhole, hlines, line.decodeLossy_bytes,
      List.map_cons, List.cons_append, List.tail_cons,
      declaredLength?_append fun l hl => (hbefore l hl).2]
  · rw [ofBytes_joined hreason, if_pos hmajor]
  · rw [ofBytes_joined hreason, if_neg (by simp), if_pos hstatus]

/-- A length of twelve, oddly spelled. -/
def oddLength : LengthLine where
  indent := ['\t']
  name := "cOnTeNt-LENGTH".toList
  gap := ['\u00a0']
  lead := [' ', '\u2003']
  zeros := 3
  length := 12
  trail := ['\u3000']
  name_spells := by decide
  indent_padding := by decide
  gap_padding := by decide
  lead_padding := by decide
  trail_padding := by decide

/-- The reason and one of the lines are not in UTF-8, another line has the name in its value only,
and a second length is declared. -/
theorem ofBytes_wellFormed_sample :
  oddLength.text = "\tcOnTeNt-LENGTH\u00a0: \u200300012\u3000".toList
    ∧ ofBytes (joined (statusBytes 1 7 200 [0xFF, 0xC3]
      :: [[0xC3, 58, 0x80], utf8 "x: content-length: 3", []]
        ++ oddLength.bytes :: [utf8 "Content-Length: 99"]))
      = .ok ⟨1, 7, 200, 12⟩
  := by
  obtain ⟨haccepted, -⟩ := ofBytes_wellFormed (show 13 ∉ ([0xFF, 0xC3] : Bytes) by decide)
  refine ⟨by decide, haccepted 7 _ _ oddLength ?_⟩
  decide +kernel

end FirmwareUpdate.Head
