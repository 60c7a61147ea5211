import FirmwareUpdate.Proofs.Record.Reading
import FirmwareUpdate.Proofs.Text.Utf8
import FirmwareUpdate.Record.Quoted

/-!
# Reading back quoted texts

A character is written as itself, as a letter after a backslash, or as the number of its unit. Each
of the three forms is read back as the bytes of the character, so a quoted text is read back up to
its closing quote.
-/

namespace FirmwareUpdate.Record.Quoted

variable {c : Char} {text : List Char} {count : Nat} {before content left rest : Bytes}

/-! ### The forms of a character -/

/-- A byte that stands for itself between quotes. -/
def IsPlain (b : UInt8) : Prop :=
  b ≠ quote ∧ b ≠ backslash ∧ ¬ b < 32

/-- The bytes that a character can be written with. -/
inductive Form (c : Char) : Bytes → Prop
  | letter (l : UInt8) {b : UInt8} (hletter : l ≠ 117) (hescape : letterEscape? l = some b)
      (hbyte : String.utf8EncodeChar c = [b]) : Form c [backslash, l]
  | unit {high low : UInt8} (hunit : unit? 48 48 high low = some c.toNat)
      (hcontrol : c.toNat < 32) : Form c [backslash, 117, 48, 48, high, low]
  | plain (h : ∀ b ∈ String.utf8EncodeChar c, IsPlain b) : Form c (String.utf8EncodeChar c)

/-- A byte of a character is the whole character, or no letter of its own. -/
theorem toNat_of_mem_encodeChar {b : UInt8} (h : b ∈ String.utf8EncodeChar c) :
  b.toNat = c.toNat ∨ 128 ≤ b.toNat
  := by
  have hlater : ∀ {n : Nat}, 128 ≤ n → n < 256 → 128 ≤ (UInt8.ofNat n).toNat := by
    intro n hlow hhigh
    rwa [Utf8.toNat_ofNat hhigh]
  have hcode : c.toNat = c.val.toNat := rfl
  rw [String.utf8EncodeChar] at h
  split at h
  case isTrue hone =>
    left
    rw [List.mem_singleton.mp h, Utf8.toNat_ofNat (by omega), hcode]
  case isFalse =>
  right
  split at h
  case isTrue =>
    simp only [List.mem_cons, List.not_mem_nil, or_false] at h
    obtain rfl | rfl := h <;> apply hlater <;> omega
  case isFalse =>
  split at h
  case isTrue =>
    simp only [List.mem_cons, List.not_mem_nil, or_false] at h
    obtain rfl | rfl | rfl := h <;> apply hlater <;> omega
  case isFalse =>
    simp only [List.mem_cons, List.not_mem_nil, or_false] at h
    obtain rfl | rfl | rfl | rfl := h <;> apply hlater <;> omega

theorem isPlain_of_mem_encodeChar (hquote : c ≠ '\"') (hbackslash : c ≠ '\\')
    (hcontrol : ¬ c.toNat < 32) {b : UInt8} (h : b ∈ String.utf8EncodeChar c) :
  IsPlain b
  := by
  have hcode : ∀ d : Char, c ≠ d → c.toNat ≠ d.toNat := fun d hne heq => hne (Char.toNat_inj.mp heq)
  have hnotquote : c.toNat ≠ 34 := hcode '\"' hquote
  have hnotbackslash : c.toNat ≠ 92 := hcode '\\' hbackslash
  have hbyte := toNat_of_mem_encodeChar h
  refine ⟨?_, ?_, ?_⟩
  · rintro rfl
    change 34 = _ ∨ 128 ≤ 34 at hbyte
    omega
  · rintro rfl
    change 92 = _ ∨ 128 ≤ 92 at hbyte
    omega
  · rw [UInt8.lt_iff_toNat_lt]
    change ¬ b.toNat < 32
    omega

/-- The two last digits of a control character's unit. -/
def unitDigits (n : Nat) : UInt8 × UInt8 :=
  (UInt8.ofNat (Nat.digitChar (n / 16)).toNat, UInt8.ofNat (Nat.digitChar (n % 16)).toNat)

/-- The number of a control character is written with four hexadecimal digits. -/
theorem unit?_unitDigits :
  ∀ n < 32, Utf8.encode (['\\', 'u', '0', '0'] ++ Hex.pair (UInt8.ofNat n))
      = [backslash, 117, 48, 48, (unitDigits n).1, (unitDigits n).2]
    ∧ unit? 48 48 (unitDigits n).1 (unitDigits n).2 = some n
  := by decide +kernel

/-- Each character is written in one of the forms. -/
theorem form_encodeChar (c : Char) :
  Form c (Utf8.encode (encodeChar c))
  := by
  unfold encodeChar
  split
  case h_1 => exact .letter 34 (by decide) rfl rfl
  case h_2 => exact .letter 92 (by decide) rfl rfl
  case h_3 => exact .letter 98 (by decide) rfl rfl
  case h_4 => exact .letter 102 (by decide) rfl rfl
  case h_5 => exact .letter 110 (by decide) rfl rfl
  case h_6 => exact .letter 114 (by decide) rfl rfl
  case h_7 => exact .letter 116 (by decide) rfl rfl
  case h_8 hquote hbackslash _ _ _ _ _ =>
    split
    case isTrue hcontrol =>
      obtain ⟨hbytes, hunit⟩ := unit?_unitDigits c.toNat hcontrol
      rw [hbytes]
      exact .unit hunit hcontrol
    case isFalse hcontrol =>
      rw [Utf8.encode_singleton]
      apply Form.plain
      intro b hb
      exact isPlain_of_mem_encodeChar hquote hbackslash hcontrol hb

/-! ### Reading the forms -/

/-- Plain bytes are read one by one. -/
theorem yields_plain {bytes : Bytes} (hplain : ∀ b ∈ bytes, IsPlain b)
    (h : Reader.Yields (contentFrom count (bytes.reverse ++ before)) rest content left) :
  Reader.Yields (contentFrom (bytes.length + count) before) (bytes ++ rest) content left
  := by
  induction bytes generalizing before with
  | nil => simpa using h
  | cons b bytes ih =>
      obtain ⟨hquote, hbackslash, hcontrol⟩ := hplain b List.mem_cons_self
      rw [List.length_cons, Nat.add_right_comm]
      apply (Reader.yields_next b (bytes ++ rest)).bind
      dsimp only
      rw [if_neg hquote, if_neg hbackslash, if_neg hcontrol]
      apply ih (fun d hd => hplain d (List.mem_cons_of_mem b hd))
      simpa using h

/-- An escape is read in one step. -/
theorem yields_escaped {bytes middle : Bytes} (hescape : Reader.Yields escape rest bytes middle)
    (h : Reader.Yields (contentFrom count (bytes.reverse ++ before)) middle content left) :
  Reader.Yields (contentFrom (count + 1) before) (backslash :: rest) content left
  := by
  apply (Reader.yields_next backslash rest).bind
  dsimp only
  rw [if_neg (by decide), if_pos rfl]
  exact hescape.bind h

theorem yields_unicodeEscape {high low : UInt8} (hunit : unit? 48 48 high low = some c.toNat)
    (hcontrol : c.toNat < 32) (rest : Bytes) :
  Reader.Yields unicodeEscape (48 :: 48 :: high :: low :: rest) c rest
  := by
  have hread : Reader.Yields unit (48 :: 48 :: high :: low :: rest) c.toNat rest := by
    apply (Reader.yields_get _).bind
    apply (Reader.yields_set _ rest).bind
    rw [hunit]
    apply Reader.Yields.pure
  have hlow : ¬ isLow c.toNat = true := by
    simp only [isLow, Bool.and_eq_true, decide_eq_true_eq]
    omega
  have hhigh : ¬ isHigh c.toNat = true := by
    simp only [isHigh, Bool.and_eq_true, decide_eq_true_eq]
    omega
  apply hread.bind
  rw [if_neg hlow, if_neg hhigh, Char.ofNat_toNat]
  apply Reader.Yields.pure

/-- The bytes of a form without its backslash are read as those of the character. -/
theorem yields_letter {l b : UInt8} (hletter : l ≠ 117) (hescape : letterEscape? l = some b)
    (rest : Bytes) :
  Reader.Yields escape (l :: rest) [b] rest
  := by
  apply (Reader.yields_next l rest).bind
  split
  case h_1 hnone => cases hnone
  case h_2 hunit => exact absurd (Option.some.inj hunit) hletter
  case h_3 hl =>
    obtain rfl := Option.some.inj hl
    rw [hescape]
    apply Reader.Yields.pure

theorem yields_unit {high low : UInt8} (hunit : unit? 48 48 high low = some c.toNat)
    (hcontrol : c.toNat < 32) (rest : Bytes) :
  Reader.Yields escape (117 :: 48 :: 48 :: high :: low :: rest) (String.utf8EncodeChar c) rest
  := by
  apply (Reader.yields_next 117 _).bind
  apply (yields_unicodeEscape hunit hcontrol rest).bind
  rw [Utf8.encode_singleton]
  apply Reader.Yields.pure

/-- A character is read from any of its forms. More steps than there are bytes are always enough,
since each of them consumes a byte. -/
theorem yields_form {bytes : Bytes} (hform : Form c bytes)
    (hcount : (bytes ++ rest).length < count)
    (h : ∀ count, rest.length < count →
      Reader.Yields (contentFrom count ((String.utf8EncodeChar c).reverse ++ before)) rest content
        left) :
  Reader.Yields (contentFrom count before) (bytes ++ rest) content left
  := by
  rw [List.length_append] at hcount
  cases hform with
  | letter l hletter hescape hbyte =>
      obtain ⟨steps, rfl⟩ : ∃ n, count = n + 1 := ⟨count - 1, by omega⟩
      rw [hbyte] at h
      apply yields_escaped (yields_letter hletter hescape rest)
      apply h
      simp only [List.length_cons] at hcount
      omega
  | unit hunit hcontrol =>
      obtain ⟨steps, rfl⟩ : ∃ n, count = n + 1 := ⟨count - 1, by omega⟩
      apply yields_escaped (yields_unit hunit hcontrol rest)
      apply h
      simp only [List.length_cons] at hcount
      omega
  | plain hplain =>
      obtain ⟨steps, rfl⟩ : ∃ n, count = (String.utf8EncodeChar c).length + n :=
        Nat.exists_eq_add_of_le (by omega)
      apply yields_plain hplain
      apply h
      omega

/-! ### Reading a text -/

/-- The characters of a text are read one after another up to the closing quote. -/
theorem yields_contentFrom (text : List Char) (before rest : Bytes)
    (hcount : (Utf8.encode (text.flatMap encodeChar) ++ quote :: rest).length < count) :
  Reader.Yields (contentFrom count before)
    (Utf8.encode (text.flatMap encodeChar) ++ quote :: rest)
    (before.reverse ++ Utf8.encode text) rest
  := by
  induction text generalizing count before with
  | nil =>
      obtain ⟨steps, rfl⟩ : ∃ n, count = n + 1 := ⟨count - 1, by omega⟩
      apply (Reader.yields_next quote rest).bind
      dsimp only
      rw [if_pos rfl, Utf8.encode, List.flatMap_nil, List.append_nil]
      apply Reader.Yields.pure
  | cons c text ih =>
      rw [List.flatMap_cons, Utf8.encode_append, List.append_assoc] at hcount ⊢
      apply yields_form (form_encodeChar c) hcount
      intro steps hsteps
      have hread := ih ((String.utf8EncodeChar c).reverse ++ before) hsteps
      rwa [List.reverse_append, List.reverse_reverse, List.append_assoc, ← Utf8.encode_cons]
        at hread

/-- A quoted text is read back from behind its opening quote. -/
theorem yields_text (text : String) (rest : Bytes) :
  Reader.Yields Quoted.text (Utf8.encode (text.toList.flatMap encodeChar) ++ quote :: rest) text
    rest
  := by
  apply (Reader.yields_get _).bind
  apply (yields_contentFrom text.toList [] rest (Nat.lt_succ_self _)).bind
  rw [List.reverse_nil, List.nil_append, Utf8.decode?_encode]
  dsimp only
  rw [String.ofList_toList]
  apply Reader.Yields.pure

/-- The bytes of the quoted form of a text. -/
theorem utf8_encode (text : String) :
  utf8 (encode text) = quote :: Utf8.encode (text.toList.flatMap encodeChar) ++ [quote]
  := by
  have hquote : String.utf8EncodeChar '\"' = [quote] := by decide
  rw [utf8, encode, String.toList_ofList, List.cons_append, Utf8.encode_cons, Utf8.encode_append,
    Utf8.encode_singleton, hquote]
  rfl

theorem Form.length_pos {bytes : Bytes} (h : Form c bytes) :
  0 < bytes.length
  := by
  cases h with
  | letter => exact Nat.zero_lt_succ _
  | unit => exact Nat.zero_lt_succ _
  | plain =>
      rw [String.length_utf8EncodeChar]
      exact c.utf8Size_pos

/-- Each character of a text takes up space in its quoted form. -/
theorem length_le_encode (text : String) :
  text.length ≤ (utf8 (encode text)).length
  := by
  have hcontent (cs : List Char) : cs.length ≤ (Utf8.encode (cs.flatMap encodeChar)).length := by
    induction cs with
    | nil => exact Nat.le_refl 0
    | cons c cs ih =>
        have hpos := (form_encodeChar c).length_pos
        rw [List.flatMap_cons, Utf8.encode_append, List.length_append, List.length_cons]
        omega
  have hlength := hcontent text.toList
  rw [String.length_toList] at hlength
  rw [utf8_encode, List.length_append, List.length_cons]
  omega

end FirmwareUpdate.Record.Quoted
