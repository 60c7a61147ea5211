import FirmwareUpdate.Proofs.Record.Reading
import FirmwareUpdate.Proofs.Text.Decimal
import FirmwareUpdate.Proofs.Text.Utf8
import FirmwareUpdate.Record.Number

/-!
# Reading back natural numbers

A natural number is written with its decimal digits. It is read back as an integer if it fits into
64 bits and nothing follows that would go on with a number.
-/

namespace FirmwareUpdate

/-- Only zero is written with a zero in front. -/
theorem Text.zero_not_mem_head_decimal {n : Nat} (h : n ≠ 0) :
  '0' ∉ (decimal n).head?
  := by
  induction n using Nat.strongRecOn with
  | ind n ih =>
      rw [decimal]
      obtain hn | hn := Nat.lt_or_ge n 10
      case inl =>
        have hdigit : (Nat.digitChar n).toNat = n + 48 := by
          rw [Nat.toNat_digitChar_of_lt_ten hn, Nat.add_comm]
        rw [Nat.toDigits_of_lt_base hn, List.head?_cons, Option.mem_some_iff]
        intro hzero
        rw [hzero] at hdigit
        change 48 = n + 48 at hdigit
        omega
      case inr =>
        have hfirst : (decimal (n / 10)).head?.isSome :=
          List.isSome_head?.mpr (decimal_ne_nil (n / 10))
        rw [Nat.toDigits_of_base_le (by decide) hn, List.head?_append, ← decimal,
          Option.or_of_isSome hfirst]
        apply ih (n / 10) (by omega) (by omega)

/-- The digits of a number as bytes. -/
theorem Text.encode_decimal (n : Nat) :
  Utf8.encode (decimal n) = (decimal n).map fun c => UInt8.ofNat c.toNat
  := by
  apply Utf8.encode_of_ascii
  intro c hc
  have hbounds := toNat_of_isDigit (isDigit_decimal hc)
  omega

namespace Record

variable {rest : Bytes}

/-- Whether a number ends in front of a text: nothing comes next that goes on with it. -/
def EndsNumber (rest : Bytes) : Prop :=
  ∀ b ∈ rest.head?, Reader.digits.isDigit b = false ∧ b ≠ 46 ∧ b ≠ 101 ∧ b ≠ 69

theorem EndsNumber.not_any_isDigit (h : EndsNumber rest) :
  ¬ rest.head?.any Reader.digits.isDigit = true
  := by
  cases rest with
  | nil => exact Bool.false_ne_true
  | cons b rest => simpa using (h b rfl).1

namespace Number

/-- The number that digits denote after a number in front of them. -/
def value (n : Nat) (digits : List Nat) : Nat :=
  digits.foldl (10 * · + ·) n

theorem le_value (n : Nat) (digits : List Nat) :
  n ≤ value n digits
  := by
  induction digits generalizing n with
  | nil => exact Nat.le_refl n
  | cons d digits ih =>
      have hnext : 10 * n + d ≤ value n (d :: digits) := ih (10 * n + d)
      omega

/-- A number below the bound takes all of its digits. -/
theorem absorb_of_lt {bound n : Nat} {digits : List Nat} (h : value n digits < bound) :
  absorb bound n digits = (value n digits, digits.length)
  := by
  induction digits generalizing n with
  | nil => rfl
  | cons d digits ih =>
      have hfits : 10 * n + d < bound := Nat.lt_of_le_of_lt (le_value _ digits) h
      rw [absorb, if_pos hfits, ih h]
      rfl

theorem yields_ofDigits {run : List Nat} (h : value 0 run < UInt64.size)
    (hrest : EndsNumber rest) :
  Reader.Yields (ofDigits true run) rest (.integer (value 0 run)) rest
  := by
  rw [ofDigits, absorb_of_lt h]
  apply (Reader.yields_peek rest).bind
  split
  case h_1 hpoint => exact absurd rfl (hrest 46 hpoint).2.1
  case h_2 hexponent => exact absurd rfl (hrest 101 hexponent).2.2.1
  case h_3 hexponent => exact absurd rfl (hrest 69 hexponent).2.2.2
  case h_4 =>
    rw [Nat.sub_self, if_neg (by simp), if_pos rfl]
    apply Reader.Yields.pure

theorem value_decimal (n : Nat) :
  value 0 ((Text.decimal n).map fun c => c.toNat - 48) = n
  := by
  rw [value, List.foldl_map]
  exact Nat.ofDigitChars_ten_toDigits

/-- Each byte of a number's text is a digit and has the digit's value. -/
theorem of_mem_decimal {n : Nat} {c : Char} (h : c ∈ Text.decimal n) :
  Reader.digits.isDigit (UInt8.ofNat c.toNat) = true
    ∧ (UInt8.ofNat c.toNat).toNat - 48 = c.toNat - 48
  := by
  obtain ⟨hlow, hhigh⟩ := Text.toNat_of_isDigit (Text.isDigit_decimal h)
  have hbyte : (UInt8.ofNat c.toNat).toNat = c.toNat := Utf8.toNat_ofNat (by omega)
  refine ⟨?_, by rw [hbyte]⟩
  rw [Reader.digits.isDigit, Bool.and_eq_true, decide_eq_true_eq, decide_eq_true_eq,
    UInt8.le_iff_toNat_le, UInt8.le_iff_toNat_le, hbyte]
  exact ⟨hlow, hhigh⟩

/-- The text of a number starts with a digit, which is a zero for zero only. -/
theorem exists_decimal_cons (n : Nat) :
  ∃ b digits, Utf8.encode (Text.decimal n) = b :: digits ∧ Reader.digits.isDigit b = true
    ∧ (b = 48 → n = 0)
  := by
  obtain ⟨c, letters, htext⟩ := List.exists_cons_of_ne_nil (Text.decimal_ne_nil n)
  have hmem : c ∈ Text.decimal n := by
    rw [htext]
    exact List.mem_cons_self
  refine ⟨UInt8.ofNat c.toNat, letters.map fun c => UInt8.ofNat c.toNat, ?_,
    (of_mem_decimal hmem).1, ?_⟩
  · rw [Text.encode_decimal, htext, List.map_cons]
  · intro hbyte
    by_contra hzero
    have hbounds := Text.toNat_of_isDigit (Text.isDigit_decimal hmem)
    have hcode : c.toNat = '0'.toNat := by
      rw [← Utf8.toNat_ofNat (n := c.toNat) (by omega), hbyte]
      rfl
    obtain rfl := Char.toNat_inj.mp hcode
    apply Text.zero_not_mem_head_decimal hzero
    rw [htext]
    rfl

/-- The digits of a number are read up to its end. -/
theorem yields_digits {n : Nat} (hrest : EndsNumber rest) :
  Reader.Yields Reader.digits (Utf8.encode (Text.decimal n) ++ rest)
    ((Text.decimal n).map fun c => c.toNat - 48) rest
  := by
  have hvalues : ((Text.decimal n).map fun c => UInt8.ofNat c.toNat).map (fun b => b.toNat - 48)
      = (Text.decimal n).map fun c => c.toNat - 48 := by
    rw [List.map_map]
    apply List.map_congr_left
    intro c hc
    exact (of_mem_decimal hc).2
  rw [Text.encode_decimal, ← hvalues]
  apply Reader.yields_digits
  · intro b hb
    obtain ⟨c, hc, rfl⟩ := List.mem_map.mp hb
    exact (of_mem_decimal hc).1
  · exact fun b hb => (hrest b hb).1

/-- A number is read from its digits. -/
theorem yields_read {n : Nat} (h : n < UInt64.size) (hrest : EndsNumber rest) :
  Reader.Yields (read true) (Utf8.encode (Text.decimal n) ++ rest) (.integer n) rest
  := by
  have hdigits : Reader.Yields (ofDigits true ((Text.decimal n).map fun c => c.toNat - 48)) rest
      (.integer n) rest := by
    have hread := yields_ofDigits (by rwa [value_decimal]) hrest
    rwa [value_decimal] at hread
  by_cases hzero : n = 0
  case pos =>
    subst hzero
    change Reader.Yields (read true) (48 :: rest) _ rest
    apply (Reader.yields_peek (48 :: rest)).bind
    apply (Reader.yields_drop 48 rest).bind
    apply (Reader.yields_peek rest).bind
    rw [if_neg hrest.not_any_isDigit]
    exact hdigits
  case neg =>
    obtain ⟨b, digits, htext, hdigit, hfirst⟩ := exists_decimal_cons n
    have hrun := yields_digits (n := n) hrest
    rw [htext, List.cons_append] at hrun ⊢
    apply (Reader.yields_peek _).bind
    dsimp only [List.head?_cons]
    split
    case h_1 hnone => cases hnone
    case h_2 hsome => exact absurd (hfirst (Option.some.inj hsome)) hzero
    case h_3 hsome =>
      obtain rfl := Option.some.inj hsome
      rw [if_pos hdigit]
      exact hrun.bind hdigits

end Number

end Record

end FirmwareUpdate
