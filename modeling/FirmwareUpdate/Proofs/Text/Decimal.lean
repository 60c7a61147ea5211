import FirmwareUpdate.Text.Blank
import FirmwareUpdate.Text.Decimal
import Mathlib.Algebra.Group.Nat.Defs
import Mathlib.Tactic.Common

/-!
# Reading back decimal numbers

The digits of a number are read as the number, alone or in front of something that is not a digit.
-/

namespace FirmwareUpdate.Text

theorem isDigit_decimal {n : Nat} {c : Char} (h : c ∈ decimal n) :
  c.isDigit = true
  := Nat.isDigit_of_mem_toDigits (by decide) (by decide) h

theorem decimal_ne_nil (n : Nat) :
  decimal n ≠ []
  := by
  have hlength : 0 < (decimal n).length := Nat.length_toDigits_pos
  exact List.length_pos_iff.mp hlength

/-- The text of a number consists of its digits. -/
theorem toList_repr (n : Nat) :
  n.repr.toList = decimal n
  := by
  rw [Nat.repr_eq_ofList_toDigits, String.toList_ofList]
  rfl

/-- How many digits a number has. -/
theorem length_decimal_le {n k : Nat} (hpos : 0 < k) (h : n < 10 ^ k) :
  (decimal n).length ≤ k
  := (Nat.length_toDigits_le_iff (by decide) hpos).mpr h

theorem digit?_of_isDigit {c : Char} (h : c.isDigit = true) :
  digit? c = some (c.toNat - '0'.toNat)
  := by
  rw [digit?, if_pos h]

theorem foldlM_digit? {digits : List Char} (h : ∀ c ∈ digits, c.isDigit = true) (n : Nat) :
  digits.foldlM (fun n d => (digit? d).map (10 * n + ·)) n = some (Nat.ofDigitChars 10 digits n)
  := by
  induction digits generalizing n with
  | nil => rfl
  | cons c digits ih =>
      rw [List.foldlM_cons, digit?_of_isDigit (h c List.mem_cons_self), Nat.ofDigitChars_cons]
      apply ih
      intro d hd
      apply h d (List.mem_cons_of_mem c hd)

theorem readDigits?_decimal (n : Nat) :
  readDigits? (decimal n) = some n
  := by
  obtain ⟨c, digits, hdigits⟩ := List.exists_cons_of_ne_nil (decimal_ne_nil n)
  have hread := foldlM_digit? (fun _ => isDigit_decimal (n := n)) 0
  rw [decimal, Nat.ofDigitChars_ten_toDigits] at hread
  rw [hdigits, readDigits?, ← hdigits]
  exact hread

/-- A digit is read with the digits before it, and anything else is refused. -/
theorem foldlM_digit?_eq_some {digits : List Char} {n m : Nat}
    (h : digits.foldlM (fun n d => (digit? d).map (10 * n + ·)) n = some m) :
  ∀ c ∈ digits, c.isDigit = true
  := by
  induction digits generalizing n with
  | nil => exact fun _ hc => absurd hc List.not_mem_nil
  | cons c digits ih =>
      rw [List.foldlM_cons, Option.bind_eq_bind, Option.bind_eq_some_iff] at h
      obtain ⟨next, hdigit, hrest⟩ := h
      have hc : c.isDigit = true := by
        by_contra hc
        rw [digit?, if_neg hc] at hdigit
        cases hdigit
      intro d hd
      obtain rfl | hd := List.mem_cons.mp hd
      · exact hc
      · exact ih hrest d hd

theorem readDigits?_eq_some_iff {text : List Char} {n : Nat} :
  readDigits? text = some n
    ↔ text ≠ [] ∧ (∀ c ∈ text, c.isDigit = true) ∧ Nat.ofDigitChars 10 text 0 = n
  := by
  cases text with
  | nil => simp [readDigits?]
  | cons c text =>
      rw [readDigits?]
      constructor
      · intro h
        have hdigits := foldlM_digit?_eq_some h
        rw [foldlM_digit? hdigits] at h
        exact ⟨List.cons_ne_nil c text, hdigits, Option.some.inj h⟩
      · rintro ⟨-, hdigits, rfl⟩
        exact foldlM_digit? hdigits 0

/-- A sign is not a digit. -/
theorem readBelow?_of_readDigits? {bound n : Nat} {text : List Char}
    (hread : readDigits? text = some n) (h : n < bound) :
  readBelow? bound text = some n
  := by
  unfold readBelow?
  split
  case h_1 rest =>
    obtain ⟨-, hdigits, -⟩ := readDigits?_eq_some_iff.mp hread
    have hsign := hdigits '+' List.mem_cons_self
    cases hsign
  case h_2 =>
    dsimp only
    rw [hread, Option.bind_eq_bind, Option.bind_some, if_pos h]

theorem readBelow?_decimal {bound n : Nat} (h : n < bound) :
  readBelow? bound (decimal n) = some n
  := readBelow?_of_readDigits? (readDigits?_decimal n) h

/-- Zeros in front of a number do not change it. -/
theorem readDigits?_zeros_append (zeros n : Nat) :
  readDigits? (List.replicate zeros '0' ++ decimal n) = some n
  := by
  rw [readDigits?_eq_some_iff]
  refine ⟨?_, ?_, ?_⟩
  · intro hnil
    apply decimal_ne_nil n (List.append_eq_nil_iff.mp hnil).2
  · intro c hc
    obtain hc | hc := List.mem_append.mp hc
    · rw [List.eq_of_mem_replicate hc]
      rfl
    · apply isDigit_decimal hc
  · have hzeros : Nat.ofDigitChars 10 (List.replicate zeros '0') 0 = 0 := by
      induction zeros with
      | zero => rfl
      | succ zeros ih => rw [List.replicate_succ, Nat.ofDigitChars_cons]; exact ih
    rw [Nat.ofDigitChars_append, hzeros]
    apply Nat.ofDigitChars_ten_toDigits

/-- The number at the start of a text is that of all the digits that it starts with. -/
theorem readLeadingBelow?_eq_some_iff {bound n : Nat} {text : List Char} :
  readLeadingBelow? bound text = some n
    ↔ ∃ digits rest, text = digits ++ rest ∧ digits ≠ [] ∧ (∀ c ∈ digits, c.isDigit = true)
      ∧ (∀ c ∈ rest.head?, c.isDigit = false) ∧ Nat.ofDigitChars 10 digits 0 = n ∧ n < bound
  := by
  have hread : readLeadingBelow? bound text = some n
      ↔ readDigits? (text.takeWhile Char.isDigit) = some n ∧ n < bound := by
    rw [readLeadingBelow?, Option.bind_eq_bind, Option.bind_eq_some_iff]
    constructor
    · rintro ⟨m, hm, hlt⟩
      split at hlt
      case isTrue hbound =>
        obtain rfl := Option.some.inj hlt
        exact ⟨hm, hbound⟩
      case isFalse => cases hlt
    · rintro ⟨hn, hbound⟩
      exact ⟨n, hn, if_pos hbound⟩
  rw [hread, readDigits?_eq_some_iff]
  constructor
  · rintro ⟨⟨hne, hdigits, hvalue⟩, hbound⟩
    refine ⟨_, text.dropWhile Char.isDigit, List.takeWhile_append_dropWhile.symm, hne, hdigits, ?_,
      hvalue, hbound⟩
    intro c hc
    have hhead := List.head?_dropWhile_not Char.isDigit text
    rwa [hc] at hhead
  · rintro ⟨digits, rest, rfl, hne, hdigits, hrest, hvalue, hbound⟩
    have htake : (digits ++ rest).takeWhile Char.isDigit = digits := by
      rw [List.takeWhile_append_of_pos hdigits]
      cases rest with
      | nil => apply List.append_nil
      | cons c rest => rw [List.takeWhile_cons_of_neg (by simp [hrest c rfl]), List.append_nil]
    rw [htake]
    exact ⟨⟨hne, hdigits, hvalue⟩, hbound⟩

/-- What follows the digits of a number does not matter if it does not start with a digit. -/
theorem readLeadingBelow?_decimal {bound n : Nat} (h : n < bound) {rest : List Char}
    (hrest : ∀ c ∈ rest.head?, c.isDigit = false) :
  readLeadingBelow? bound (decimal n ++ rest) = some n
  := by
  apply readLeadingBelow?_eq_some_iff.mpr
  obtain ⟨hne, hdigits, hvalue⟩ := readDigits?_eq_some_iff.mp (readDigits?_decimal n)
  exact ⟨decimal n, rest, rfl, hne, hdigits, hrest, hvalue, h⟩

theorem toNat_of_isDigit {c : Char} (h : c.isDigit = true) :
  48 ≤ c.toNat ∧ c.toNat ≤ 57
  := by
  simpa [Char.isDigit, UInt32.le_iff_toNat_le] using h

/-- A digit is not a blank. -/
theorem isBlank_of_isDigit {c : Char} (h : c.isDigit = true) :
  isBlank c = false
  := by
  obtain ⟨hlow, hhigh⟩ := toNat_of_isDigit h
  simp only [isBlank, Bool.or_eq_false_iff, Bool.and_eq_false_iff, decide_eq_false_iff_not,
    beq_eq_false_iff_ne]
  omega

end FirmwareUpdate.Text
