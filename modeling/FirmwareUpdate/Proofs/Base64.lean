import FirmwareUpdate.Base64
import FirmwareUpdate.Proofs.Attempts
import FirmwareUpdate.Proofs.Text.Utf8
import Mathlib.Tactic.Common

/-!
# One text for each byte sequence

A text is a run of symbols and the signs that fill up its last group. The symbols stand for six-bit
numbers. Bytes are spread over these and gathered from them again, and since the bits that no byte
uses have to be zero, the numbers too are got back from the bytes.

The main statement is `decode_eq_ok_iff`: a text stands for the bytes that it is the text of, and
for nothing else.
-/

namespace FirmwareUpdate.Base64

/-! ### Symbols -/

theorem value?_symbol {n : Nat} (h : n < 64) :
  value? (symbol n) = some n
  := by
  revert n
  decide +kernel

theorem value?_pad :
  value? pad = none
  := rfl

/-- Each number below 64 has one symbol. -/
theorem value?_eq_some_iff {b : UInt8} {n : Nat} :
  value? b = some n ↔ n < 64 ∧ b = symbol n
  := by
  constructor
  · have hvalue : ∀ k < 256, ∀ n ∈ value? (UInt8.ofNat k), n < 64 ∧ UInt8.ofNat k = symbol n := by
      decide +kernel
    intro h
    have hb := hvalue b.toNat b.toNat_lt n
    rw [UInt8.ofNat_toNat] at hb
    exact hb h
  · rintro ⟨hn, rfl⟩
    exact value?_symbol hn

/-! ### Signs that fill up -/

/-- From `offset` on there are places where a text may be filled up. -/
def Fills (group offset count : Nat) : Prop :=
  ∀ i < count, group ≤ offset + i ∧ 2 ≤ (offset + i - group) % 4

theorem fills_zero (group offset : Nat) :
  Fills group offset 0
  := fun _ h => absurd h (Nat.not_lt_zero _)

theorem fills_succ {group offset count : Nat} :
  Fills group offset (count + 1)
    ↔ (group ≤ offset ∧ 2 ≤ (offset - group) % 4) ∧ Fills group (offset + 1) count
  := by
  constructor
  · intro h
    refine ⟨h 0 (Nat.succ_pos _), ?_⟩
    intro i hi
    rw [Nat.add_right_comm, Nat.add_assoc]
    exact h (i + 1) (Nat.succ_lt_succ hi)
  · rintro ⟨hfirst, hrest⟩ i hi
    cases i with
    | zero => exact hfirst
    | succ i =>
        rw [← Nat.add_assoc, Nat.add_right_comm]
        exact hrest i (Nat.lt_of_succ_lt_succ hi)

/-- A sign fills up the text where that may be, or is a symbol in front of the first such sign. -/
theorem symbols_cons {group offset padCount p : Nat} {firstPad : Option Nat} {b : UInt8}
    {rest : Bytes} {numbers : List (Nat × UInt8)} :
  symbols group offset firstPad padCount (b :: rest) = .ok (numbers, p)
    ↔ (b = pad ∧ (group ≤ offset ∧ 2 ≤ (offset - group) % 4)
        ∧ symbols group (offset + 1) (some (firstPad.getD offset)) (padCount + 1) rest
          = .ok (numbers, p))
      ∨ (firstPad = none ∧ ∃ n more, value? b = some n ∧ numbers = (n, b) :: more
        ∧ symbols group (offset + 1) none padCount rest = .ok (more, p))
  := by
  rw [symbols.eq_def]
  dsimp only
  by_cases hplace : group ≤ offset ∧ b = pad
  · obtain ⟨hgroup, rfl⟩ := hplace
    have hpad : (decide (group ≤ offset) && pad == pad) = true := by simpa using hgroup
    rw [if_pos hpad]
    by_cases hearly : (offset - group) % 4 < 2
    · rw [if_pos hearly]
      simp [Nat.not_le.mpr hearly, value?_pad]
    · rw [if_neg hearly]
      simp [Nat.le_of_not_lt hearly, hgroup, value?_pad]
  · have hpad : ¬ (decide (group ≤ offset) && b == pad) = true := by simpa using hplace
    rw [if_neg hpad, or_iff_right fun h => hplace ⟨h.2.1.1, h.1⟩]
    cases firstPad with
    | some first => simp
    | none =>
        cases hvalue : value? b with
        | none => simp
        | some n =>
            dsimp only
            rw [bind_eq_ok_iff]
            constructor
            · rintro ⟨⟨more, count⟩, hread, ⟨⟩⟩
              exact ⟨rfl, n, more, rfl, rfl, hread⟩
            · rintro ⟨-, _, more, ⟨⟩, rfl, hread⟩
              exact ⟨(more, p), hread, rfl⟩

/-- Behind the first sign that fills up there are only such signs. -/
theorem symbols_filling {group offset first padCount p : Nat} {text : Bytes}
    {numbers : List (Nat × UInt8)} :
  symbols group offset (some first) padCount text = .ok (numbers, p)
    ↔ numbers = [] ∧ ∃ count, p = padCount + count ∧ text = List.replicate count pad
      ∧ Fills group offset count
  := by
  induction text generalizing offset padCount with
  | nil =>
      rw [symbols, Except.ok.injEq, Prod.mk.injEq]
      constructor
      · rintro ⟨rfl, rfl⟩
        exact ⟨rfl, 0, rfl, rfl, fills_zero _ _⟩
      · rintro ⟨rfl, count, rfl, htext, -⟩
        obtain rfl : count = 0 := by simpa using htext.symm
        exact ⟨rfl, rfl⟩
  | cons b rest ih =>
      rw [symbols_cons, Option.getD_some, ih]
      constructor
      · rintro (⟨rfl, hplace, rfl, count, rfl, rfl, hfills⟩ | ⟨⟨⟩, -⟩)
        exact ⟨rfl, count + 1, by omega, rfl, fills_succ.mpr ⟨hplace, hfills⟩⟩
      · rintro ⟨rfl, count, rfl, htext, hfills⟩
        cases count with
        | zero => cases htext
        | succ count =>
            obtain ⟨rfl, rfl⟩ := List.cons.inj htext
            obtain ⟨hplace, hfills⟩ := fills_succ.mp hfills
            exact .inl ⟨rfl, hplace, rfl, count, by omega, rfl, hfills⟩

/-- What is read are the numbers of the symbols, and then how many signs fill up the text. -/
theorem symbols_eq_ok_iff {group offset p : Nat} {text : Bytes} {numbers : List (Nat × UInt8)} :
  symbols group offset none 0 text = .ok (numbers, p)
    ↔ text = numbers.map (·.2) ++ List.replicate p pad
      ∧ (∀ s ∈ numbers, value? s.2 = some s.1) ∧ Fills group (offset + numbers.length) p
  := by
  induction text generalizing offset numbers with
  | nil =>
      rw [symbols, Except.ok.injEq, Prod.mk.injEq]
      constructor
      · rintro ⟨rfl, rfl⟩
        exact ⟨rfl, by simp, fills_zero _ _⟩
      · rintro ⟨htext, -, -⟩
        obtain ⟨hnumbers, hp⟩ := List.append_eq_nil_iff.mp htext.symm
        rw [List.map_eq_nil_iff] at hnumbers
        rw [List.replicate_eq_nil_iff] at hp
        exact ⟨hnumbers.symm, hp.symm⟩
  | cons b rest ih =>
      rw [symbols_cons, symbols_filling]
      constructor
      · rintro (⟨rfl, hplace, rfl, count, rfl, rfl, hfills⟩ | ⟨-, n, more, hvalue, rfl, hmore⟩)
        · rw [Nat.zero_add, Nat.add_comm 1]
          exact ⟨rfl, by simp, fills_succ.mpr ⟨hplace, hfills⟩⟩
        · obtain ⟨rfl, hvalues, hfills⟩ := ih.mp hmore
          refine ⟨rfl, List.forall_mem_cons.mpr ⟨hvalue, hvalues⟩, ?_⟩
          rwa [List.length_cons, Nat.add_comm more.length, ← Nat.add_assoc]
      · rintro ⟨htext, hvalues, hfills⟩
        cases numbers with
        | nil =>
            cases p with
            | zero => cases htext
            | succ count =>
                obtain ⟨rfl, rfl⟩ := List.cons.inj htext
                obtain ⟨hplace, hfills⟩ := fills_succ.mp hfills
                exact .inl ⟨rfl, hplace, rfl, count, by omega, rfl, hfills⟩
        | cons s more =>
            obtain ⟨rfl, rfl⟩ := List.cons.inj htext
            obtain ⟨hvalue, hvalues⟩ := List.forall_mem_cons.mp hvalues
            rw [List.length_cons, Nat.add_comm more.length, ← Nat.add_assoc] at hfills
            exact .inr ⟨rfl, s.1, more, hvalue, rfl, ih.mpr ⟨rfl, hvalues, hfills⟩⟩

/-- A text whose last group is complete is filled up by at most two signs. -/
theorem fills_iff {count p : Nat} (hcomplete : (count + p) % 4 = 0) :
  Fills ((count + p - 1) / 8 * 8) count p ↔ count % 4 ≠ 1 ∧ p = (4 - count % 4) % 4
  := by
  constructor
  · intro hfills
    have hfew : p ≤ 2 := by
      by_contra hmany
      obtain ⟨-, hplace⟩ := hfills (p - 3) (by omega)
      omega
    omega
  · rintro ⟨hcount, hp⟩ i hi
    omega

/-! ### Six-bit numbers -/

/-- The six-bit numbers over which bytes are spread. -/
def spread : Bytes → List Nat
  | [] => []
  | [a] => [a.toNat / 4, a.toNat % 4 * 16]
  | [a, b] => [a.toNat / 4, a.toNat % 4 * 16 + b.toNat / 16, b.toNat % 16 * 4]
  | a :: b :: c :: rest =>
    a.toNat / 4 :: (a.toNat % 4 * 16 + b.toNat / 16) :: (b.toNat % 16 * 4 + c.toNat / 64)
      :: c.toNat % 64 :: spread rest

/-- The text of a run of six-bit numbers. -/
def spell (numbers : List Nat) : Bytes :=
  numbers.map symbol ++ List.replicate ((4 - numbers.length % 4) % 4) pad

/-- Six-bit numbers over which bytes may have been spread. -/
structure Spread (numbers : List Nat) : Prop where
  lt : ∀ n ∈ numbers, n < 64
  length : numbers.length % 4 ≠ 1
  unused : ∀ last ∈ numbers.getLast?, unusedBits numbers.length last = 0

theorem length_group (a b c d : Nat) (rest : List Nat) :
  (a :: b :: c :: d :: rest).length % 4 = rest.length % 4
  := by
  simp only [List.length_cons]
  omega

theorem encode_eq (bytes : Bytes) :
  encode bytes = spell (spread bytes)
  := by
  induction bytes using encode.induct with
  | case1 => rfl
  | case2 a => rfl
  | case3 a b => rfl
  | case4 a b c rest ih =>
      simp only [encode, ih, spread, spell, List.map_cons, List.cons_append, length_group]

theorem unusedBits_add_four (count last : Nat) :
  unusedBits (count + 4) last = unusedBits count last
  := by
  rw [unusedBits, unusedBits, Nat.add_mod_right]

/-- A complete group of numbers in front is no matter. -/
theorem spread_group {a b c d : Nat} {rest : List Nat} :
  Spread (a :: b :: c :: d :: rest) ↔ (a < 64 ∧ b < 64 ∧ c < 64 ∧ d < 64) ∧ Spread rest
  := by
  have hlast : (∀ last ∈ (a :: b :: c :: d :: rest).getLast?,
      unusedBits (a :: b :: c :: d :: rest).length last = 0)
        ↔ ∀ last ∈ rest.getLast?, unusedBits rest.length last = 0 := by
    cases rest with
    | nil => simp [unusedBits]
    | cons e rest =>
        simp only [List.getLast?_cons_cons, List.length_cons, unusedBits_add_four]
  constructor
  · intro h
    obtain ⟨ha, hb, hc, hd, hrest⟩ := by simpa using h.lt
    exact ⟨⟨ha, hb, hc, hd⟩, hrest, length_group .. ▸ h.length, hlast.mp h.unused⟩
  · rintro ⟨⟨ha, hb, hc, hd⟩, h⟩
    exact ⟨by simpa using ⟨ha, hb, hc, hd, h.lt⟩, (length_group ..).symm ▸ h.length,
      hlast.mpr h.unused⟩

theorem spread_spread (bytes : Bytes) :
  Spread (spread bytes)
  := by
  induction bytes using encode.induct with
  | case1 => exact ⟨by simp [spread], by simp [spread], by simp [spread]⟩
  | case2 a =>
      have ha := a.toNat_lt
      refine ⟨?_, by simp [spread], ?_⟩
      · simp only [spread, List.mem_cons, List.not_mem_nil, or_false, forall_eq_or_imp, forall_eq]
        omega
      · simp only [spread, List.getLast?_cons_cons, List.getLast?_singleton, Option.mem_some_iff,
          List.length_cons, List.length_nil, unusedBits, forall_eq']
        omega
  | case3 a b =>
      have ha := a.toNat_lt
      have hb := b.toNat_lt
      refine ⟨?_, by simp [spread], ?_⟩
      · simp only [spread, List.mem_cons, List.not_mem_nil, or_false, forall_eq_or_imp, forall_eq]
        omega
      · simp only [spread, List.getLast?_cons_cons, List.getLast?_singleton, Option.mem_some_iff,
          List.length_cons, List.length_nil, unusedBits, forall_eq']
        omega
  | case4 a b c rest ih =>
      have ha := a.toNat_lt
      have hb := b.toNat_lt
      have hc := c.toNat_lt
      rw [spread, spread_group]
      exact ⟨by omega, ih⟩

theorem ofNat_eq {b : UInt8} {n : Nat} (h : n = b.toNat) :
  UInt8.ofNat n = b
  := by
  rw [h, UInt8.ofNat_toNat]

/-- Bytes are gathered from the numbers over which they are spread. -/
theorem pack_spread (bytes : Bytes) :
  pack (spread bytes) = bytes
  := by
  induction bytes using encode.induct with
  | case1 => rfl
  | case2 a =>
      rw [spread, pack, ofNat_eq (b := a)]
      omega
  | case3 a b =>
      have hb := b.toNat_lt
      rw [spread, pack, ofNat_eq (b := a), ofNat_eq (b := b)]
      · omega
      · omega
  | case4 a b c rest ih =>
      have hb := b.toNat_lt
      have hc := c.toNat_lt
      rw [spread, pack, ih, ofNat_eq (b := a), ofNat_eq (b := b), ofNat_eq (b := c)]
      · omega
      · omega
      · omega

/-- The numbers are those over which the bytes are spread that are gathered from them. -/
theorem spread_pack {numbers : List Nat} (h : Spread numbers) :
  spread (pack numbers) = numbers
  := by
  induction numbers using pack.induct with
  | case1 a b c d rest ih =>
      obtain ⟨⟨ha, hb, hc, hd⟩, hrest⟩ := spread_group.mp h
      have h₁ : a * 4 + b / 16 < 256 := by omega
      have h₂ : b % 16 * 16 + c / 4 < 256 := by omega
      have h₃ : c % 4 * 64 + d < 256 := by omega
      rw [pack, spread, ih hrest, Utf8.toNat_ofNat h₁, Utf8.toNat_ofNat h₂, Utf8.toNat_ofNat h₃]
      simp only [List.cons.injEq, and_true]
      omega
  | case2 a b c =>
      obtain ⟨ha, hb, hc⟩ := by simpa using h.lt
      have hunused : c % 4 = 0 := by simpa [unusedBits] using h.unused
      have h₁ : a * 4 + b / 16 < 256 := by omega
      have h₂ : b % 16 * 16 + c / 4 < 256 := by omega
      rw [pack, spread, Utf8.toNat_ofNat h₁, Utf8.toNat_ofNat h₂]
      simp only [List.cons.injEq, and_true]
      omega
  | case3 a b =>
      obtain ⟨ha, hb⟩ := by simpa using h.lt
      have hunused : b % 16 = 0 := by simpa [unusedBits] using h.unused
      have h₁ : a * 4 + b / 16 < 256 := by omega
      rw [pack, spread, Utf8.toNat_ofNat h₁]
      simp only [List.cons.injEq, and_true]
      omega
  | case4 numbers hfour hthree htwo =>
      match numbers with
      | [] => rfl
      | [a] => exact absurd rfl h.length
      | [a, b] => exact absurd rfl (htwo a b)
      | [a, b, c] => exact absurd rfl (hthree a b c)
      | a :: b :: c :: d :: rest => exact absurd rfl (hfour a b c d rest)

/-! ### Texts -/

/-- What is asked of a text: its symbols and the signs that fill it up, a complete last group, and
that no bits are set which no byte uses. -/
theorem decode_steps {text bytes : Bytes} :
  decode text = .ok bytes
    ↔ text.length % 4 ≠ 1 ∧ ∃ numbers p,
      symbols ((text.length - 1) / 8 * 8) 0 none 0 text = .ok (numbers, p)
        ∧ (numbers.length + p) % 4 = 0
        ∧ (∀ last ∈ numbers.getLast?, unusedBits numbers.length last.1 = 0)
        ∧ pack (numbers.map (·.1)) = bytes
  := by
  rw [decode]
  dsimp only
  split
  case h_1 hlength _ =>
    rw [hlength]
    split
    · simp
    · simp
  case h_2 hlast =>
    have hlength : text.length % 4 ≠ 1 := by
      intro hlength
      obtain ⟨last, hsome⟩ : ∃ last, text.getLast? = some last := by
        rw [← Option.isSome_iff_exists, List.getLast?_isSome]
        rintro rfl
        cases hlength
      exact hlast last hlength hsome
    rw [bind_eq_ok_iff, and_iff_right hlength, Prod.exists]
    apply exists₂_congr
    intro numbers p
    apply and_congr_right
    intro _
    dsimp only
    by_cases hcomplete : (numbers.length + p) % 4 = 0
    · cases hsome : numbers.getLast? with
      | none =>
          obtain rfl : numbers = [] := List.getLast?_eq_none_iff.mp hsome
          simp [pack, show p % 4 = 0 by simpa using hcomplete]
      | some last =>
          by_cases hunused : unusedBits numbers.length last.1 = 0
          · simp [hcomplete, hunused]
          · simp [hcomplete, hunused]
    · simp [hcomplete]

/-- A text stands for the bytes of the numbers that it spells, if bytes may have been spread over
these. -/
theorem decode_spell {text bytes : Bytes} :
  decode text = .ok bytes ↔ ∃ numbers, Spread numbers ∧ text = spell numbers ∧ pack numbers = bytes
  := by
  rw [decode_steps]
  simp only [symbols_eq_ok_iff]
  constructor
  · rintro ⟨-, numbers, p, ⟨htext, hvalues, hfills⟩, hcomplete, hunused, rfl⟩
    have hlength : text.length = numbers.length + p := by
      rw [htext, List.length_append, List.length_map, List.length_replicate]
    rw [hlength, Nat.zero_add, fills_iff hcomplete] at hfills
    obtain ⟨hcount, rfl⟩ := hfills
    have hsymbol : ∀ s ∈ numbers, s.1 < 64 ∧ s.2 = symbol s.1 := by
      intro s hs
      exact value?_eq_some_iff.mp (hvalues s hs)
    have hsymbols : numbers.map (·.2) = (numbers.map (·.1)).map symbol := by
      rw [List.map_map]
      apply List.map_congr_left
      intro s hs
      exact (hsymbol s hs).2
    refine ⟨numbers.map (·.1), ⟨?_, by simpa using hcount, ?_⟩, ?_, rfl⟩
    · rw [List.forall_mem_map]
      intro s hs
      exact (hsymbol s hs).1
    · rw [List.getLast?_map, List.length_map]
      rintro _ hlast
      obtain ⟨s, hs, rfl⟩ := Option.map_eq_some_iff.mp hlast
      exact hunused s hs
    · rw [htext, hsymbols, spell, List.length_map]
  · rintro ⟨numbers, ⟨hlt, hcount, hunused⟩, rfl, rfl⟩
    have hlength : (spell numbers).length = numbers.length + (4 - numbers.length % 4) % 4 := by
      rw [spell, List.length_append, List.length_map, List.length_replicate]
    have hcomplete : (numbers.length + (4 - numbers.length % 4) % 4) % 4 = 0 := by
      omega
    have hnumbers : (numbers.map fun n => (n, symbol n)).map (·.1) = numbers := by
      rw [List.map_map]
      exact List.map_id _
    refine ⟨by omega, numbers.map fun n => (n, symbol n), (4 - numbers.length % 4) % 4,
      ⟨?_, ?_, ?_⟩, ?_, ?_, congrArg pack hnumbers⟩
    · rw [List.map_map]
      rfl
    · rw [List.forall_mem_map]
      intro n hn
      exact value?_symbol (hlt n hn)
    · rw [hlength, Nat.zero_add, List.length_map, fills_iff hcomplete]
      exact ⟨hcount, rfl⟩
    · rw [List.length_map]
      exact hcomplete
    · rw [List.getLast?_map, List.length_map]
      rintro _ hlast
      obtain ⟨n, hn, rfl⟩ := Option.map_eq_some_iff.mp hlast
      exact hunused n hn

/-- A text stands for the bytes that it is the text of, and for nothing else. -/
theorem decode_eq_ok_iff {text bytes : Bytes} :
  decode text = .ok bytes ↔ text = encode bytes
  := by
  rw [decode_spell, encode_eq]
  constructor
  · rintro ⟨numbers, hspread, rfl, rfl⟩
    rw [spread_pack hspread]
  · rintro rfl
    exact ⟨spread bytes, spread_spread bytes, rfl, pack_spread bytes⟩

example : decode (utf8 "Zm9vYg==") = .ok (utf8 "foob") := by
  decide +kernel

-- The last symbol has a bit set that no byte uses.
example : decode (utf8 "Zm9vYh==") = .error (.invalidLastSymbol 104 5) := by
  decide +kernel

end FirmwareUpdate.Base64
