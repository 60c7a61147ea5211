import FirmwareUpdate.Proofs.Text.Lines
import FirmwareUpdate.Proofs.Text.Utf8
import Mathlib.Algebra.Group.Nat.Defs

/-!
# Letters in ASCII among other bytes

A byte in ASCII is a letter wherever it stands: a character that is under way there is given up.
And such a letter is read from nothing but its byte. So bytes that are read as UTF-8, well-formed or
not, may be cut at a byte in ASCII before or after they are read.
-/

namespace FirmwareUpdate.Utf8

variable {pending : Option Pending} {p : Pending} {b : UInt8} {c : Char} {before rest bytes : Bytes}

/-! ### Characters of several bytes -/

/-- Whatever bytes continue it, the character has a number above those in ASCII, and no byte in
ASCII continues it. -/
structure Pending.Wide (p : Pending) : Prop where
  low_ge : 128 ≤ p.low.toNat
  value_ge : 128 ≤ (p.bits * 64 + (p.low.toNat - 128)) * 64 ^ p.due

/-- The ranges of the second byte leave out what would be in ASCII. -/
theorem wide_of_start (h : start b = .first p) :
  p.Wide
  := by
  rw [start_eq rfl] at h
  split_ifs at h
  all_goals
    obtain rfl := Start.first.inj h
    refine ⟨?_, ?_⟩
    all_goals
      simp only [UInt8.reduceToNat]
      omega

theorem wide_of_begin (h : p ∈ (begin b).2) :
  p.Wide
  := by
  unfold begin at h
  split at h
  case h_2 first hstart =>
    obtain rfl := Option.some.inj h
    exact wide_of_start hstart
  all_goals cases h

/-- What has been read of a character stays wide. -/
theorem wide_of_advance (hpending : ∀ p ∈ pending, p.Wide) (h : p ∈ (advance pending b).2) :
  p.Wide
  := by
  cases pending with
  | none => exact wide_of_begin h
  | some first =>
      obtain ⟨hlow, hvalue⟩ := hpending first rfl
      rw [advance] at h
      split at h
      case isFalse => exact wide_of_begin h
      case isTrue hrange =>
        rw [Bool.and_eq_true, decide_eq_true_iff, UInt8.le_iff_toNat_le] at hrange
        split at h
        case h_1 => cases h
        case h_2 due hdue =>
          obtain rfl := Option.some.inj h
          refine ⟨by simp only [UInt8.reduceToNat, Nat.le_refl], ?_⟩
          simp only [UInt8.reduceToNat, Nat.sub_self, Nat.add_zero]
          calc
            128 ≤ (first.bits * 64 + (first.low.toNat - 128)) * 64 ^ (due + 1) := by
              rwa [hdue] at hvalue
            _ ≤ (first.bits * 64 + (b.toNat - 128)) * 64 ^ (due + 1) := by
              apply Nat.mul_le_mul_right
              omega
            _ = (first.bits * 64 + (b.toNat - 128)) * 64 * 64 ^ due := by
              rw [Nat.pow_succ, Nat.mul_comm (64 ^ due), ← Nat.mul_assoc]

/-! ### Bytes in ASCII -/

/-- A byte in ASCII is a letter wherever it stands. -/
theorem decodeFrom_append_ascii (hb : b.toNat < 128) (hpending : ∀ p ∈ pending, p.Wide)
    (before rest : Bytes) :
  decodeFrom pending (before ++ b :: rest)
    = decodeFrom pending before ++ some (Char.ofNat b.toNat) :: decodeFrom none rest
  := by
  induction before generalizing pending with
  | nil =>
      have hstart : start b = .whole (Char.ofNat b.toNat) := by
        rw [start_eq rfl, if_pos hb]
      rw [List.nil_append, decodeFrom_cons]
      cases pending with
      | none =>
          rw [advance_whole hstart]
          rfl
      | some p =>
          have hlow := (hpending p rfl).low_ge
          have hrange : ¬ (p.low ≤ b ∧ b ≤ p.high) := by
            rw [UInt8.le_iff_toNat_le]
            omega
          rw [advance, if_neg (by simpa using hrange), begin, hstart]
          rfl
  | cons a before ih =>
      rw [List.cons_append, decodeFrom_cons, decodeFrom_cons, List.append_assoc,
        ih fun p hp => wide_of_advance hpending hp]

theorem decodeLossy_append_ascii (hb : b.toNat < 128) (before rest : Bytes) :
  decodeLossy (before ++ b :: rest) = decodeLossy before ++ Char.ofNat b.toNat :: decodeLossy rest
  := by
  rw [decodeLossy, decodeFrom_append_ascii hb (by rintro _ ⟨⟩), List.map_append]
  rfl

theorem toNat_char_of_lt {n : Nat} (h : n < 128) :
  (Char.ofNat n).toNat = n
  := by
  have hvalid : n.isValidChar := .inl (by omega)
  rw [Char.ofNat, dif_pos hvalid]
  rfl

/-- A number above those in ASCII is not the number of a letter in ASCII; if it is no number of a
character, it stands for the one with the number zero. -/
theorem toNat_char_of_le {n : Nat} (h : 128 ≤ n) :
  (Char.ofNat n).toNat = 0 ∨ 128 ≤ (Char.ofNat n).toNat
  := by
  by_cases hvalid : n.isValidChar
  · right
    rw [Char.ofNat, dif_pos hvalid]
    exact h
  · left
    rw [Char.ofNat, dif_neg hvalid]
    rfl

/-- A letter in ASCII is read only from its byte. -/
theorem toNat_of_mem_begin (hc : c.toNat < 128) (h : some c ∈ (begin b).1) :
  b.toNat = c.toNat
  := by
  unfold begin at h
  rw [start_eq rfl] at h
  split_ifs at h with hb
  · obtain rfl : c = Char.ofNat b.toNat := by simpa using h
    rw [toNat_char_of_lt hb]
  all_goals simp at h

theorem toNat_of_mem_advance (hpending : ∀ p ∈ pending, p.Wide) (hpos : 0 < c.toNat)
    (hc : c.toNat < 128) (h : some c ∈ (advance pending b).1) :
  b.toNat = c.toNat
  := by
  cases pending with
  | none => exact toNat_of_mem_begin hc h
  | some p =>
      obtain ⟨hlow, hvalue⟩ := hpending p rfl
      rw [advance] at h
      split at h
      case isFalse =>
        apply toNat_of_mem_begin hc
        simpa using h
      case isTrue hrange =>
        rw [Bool.and_eq_true, decide_eq_true_iff, UInt8.le_iff_toNat_le] at hrange
        split at h
        case h_2 => cases h
        case h_1 hdue =>
          simp only [List.mem_singleton, Option.some.injEq] at h
          rw [h] at hpos hc
          rw [hdue, Nat.pow_zero, Nat.mul_one] at hvalue
          have hwide : 128 ≤ p.bits * 64 + (b.toNat - 128) := by omega
          obtain hzero | hlarge := toNat_char_of_le hwide
          · omega
          · omega

theorem toNat_of_mem_decodeFrom (hpending : ∀ p ∈ pending, p.Wide) (hpos : 0 < c.toNat)
    (hc : c.toNat < 128) (h : some c ∈ decodeFrom pending bytes) :
  ∃ b ∈ bytes, b.toNat = c.toNat
  := by
  induction bytes generalizing pending with
  | nil => cases pending <;> simp [decodeFrom] at h
  | cons b rest ih =>
      rw [decodeFrom_cons, List.mem_append] at h
      obtain h | h := h
      · exact ⟨b, List.mem_cons_self, toNat_of_mem_advance hpending hpos hc h⟩
      · obtain ⟨b, hb, hnumber⟩ := ih (fun p hp => wide_of_advance hpending hp) h
        exact ⟨b, List.mem_cons_of_mem _ hb, hnumber⟩

/-- A letter in ASCII that is in the text of bytes is one of them. -/
theorem toNat_of_mem_decodeLossy (hpos : 0 < c.toNat) (hc : c.toNat < 128)
    (h : c ∈ decodeLossy bytes) :
  ∃ b ∈ bytes, b.toNat = c.toNat
  := by
  obtain ⟨read, hread, hletter⟩ := List.mem_map.mp h
  cases read with
  | none =>
      subst hletter
      simp at hc
  | some letter =>
      obtain rfl := hletter
      exact toNat_of_mem_decodeFrom (by rintro _ ⟨⟩) hpos hc hread

theorem not_mem_decodeLossy (hpos : 0 < b.toNat) (hb : b.toNat < 128) (h : b ∉ bytes) :
  Char.ofNat b.toNat ∉ decodeLossy bytes
  := by
  intro hmem
  have hnumber := toNat_char_of_lt hb
  obtain ⟨other, hother, heq⟩ := toNat_of_mem_decodeLossy (by omega) (by omega) hmem
  rw [hnumber] at heq
  rw [UInt8.toNat_inj.mp heq] at hother
  exact h hother

/-- Bytes are cut at the first of a byte in ASCII where their text is cut at its letter. -/
theorem splitOnce_decodeLossy (hpos : 0 < b.toNat) (hb : b.toNat < 128) (bytes : Bytes) :
  Text.splitOnce (Char.ofNat b.toNat) (decodeLossy bytes)
    = (Text.splitOnce b bytes).map fun (before, after) => (decodeLossy before, decodeLossy after)
  := by
  cases hcut : Text.splitOnce b bytes with
  | none =>
      have hmem := not_mem_decodeLossy hpos hb (Text.splitOnce_eq_none_iff.mp hcut)
      exact Text.splitOnce_eq_none_iff.mpr hmem
  | some parts =>
      obtain ⟨before, after⟩ := parts
      obtain ⟨rfl, hbefore⟩ := Text.splitOnce_eq_some_iff.mp hcut
      rw [decodeLossy_append_ascii hb,
        Text.splitOnce_append (not_mem_decodeLossy hpos hb hbefore)]
      rfl

/-- Bytes are cut at a byte in ASCII where their text is cut at its letter. -/
theorem splitOn_decodeLossy (hpos : 0 < b.toNat) (hb : b.toNat < 128) (bytes : Bytes) :
  Text.splitOn (Char.ofNat b.toNat) (decodeLossy bytes) = (Text.splitOn b bytes).map decodeLossy
  := by
  have hmark : ∀ {piece : Bytes}, b ∉ piece → Char.ofNat b.toNat ∉ decodeLossy piece :=
    not_mem_decodeLossy hpos hb
  induction hlength : bytes.length using Nat.strongRecOn generalizing bytes with
  | ind n ih =>
  by_cases hmem : b ∈ bytes
  · obtain ⟨piece, rest, rfl, hpiece⟩ := List.eq_append_cons_of_mem hmem
    rw [decodeLossy_append_ascii hb, Text.splitOn_append (hmark hpiece), Text.splitOn_append hpiece,
      ih rest.length _ rest rfl, List.map_cons]
    simp only [List.length_append, List.length_cons] at hlength
    omega
  · rw [Text.splitOn_of_not_mem (hmark hmem), Text.splitOn_of_not_mem hmem]
    rfl

end FirmwareUpdate.Utf8
