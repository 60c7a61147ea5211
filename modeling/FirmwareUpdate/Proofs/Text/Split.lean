import FirmwareUpdate.Text.Split
import Mathlib.Data.List.Infix
import Mathlib.Tactic.Common

/-!
# Cutting at the first mark

A text is cut at the occurrence of the mark that ends first, and is not cut only if there is
none. Where it is cut does not change when more is appended to it.
-/

namespace FirmwareUpdate.Text

variable {α : Type _} [BEq α] {mark text before after : List α}

theorem length_le_of_isPrefixOf? (h : mark.isPrefixOf? text = some after) :
  mark.length ≤ text.length
  := by
  induction mark generalizing text with
  | nil => simp
  | cons m mark ih =>
      cases text with
      | nil => cases h
      | cons a text =>
          simp only [List.isPrefixOf?] at h
          split at h
          · simpa using ih h
          · cases h

/-- Whether a text starts with a mark does not change with what is appended, once the text is
as long as the mark. -/
theorem isPrefixOf?_append (h : mark.length ≤ text.length) (more : List α) :
  mark.isPrefixOf? (text ++ more) = (mark.isPrefixOf? text).map (· ++ more)
  := by
  induction mark generalizing text with
  | nil => rfl
  | cons m mark ih =>
      cases text with
      | nil => simp at h
      | cons a text =>
          simp only [List.cons_append, List.isPrefixOf?]
          split
          · apply ih
            simpa using h
          · rfl

theorem length_le_of_splitAtFirst (h : splitAtFirst mark text = some (before, after)) :
  mark.length ≤ text.length
  := by
  induction text generalizing before with
  | nil =>
      unfold splitAtFirst at h
      split at h
      case isTrue hempty => simp [List.isEmpty_iff.mp hempty]
      case isFalse => cases h
  | cons a text ih =>
      unfold splitAtFirst at h
      split at h
      case h_1 hfound => apply length_le_of_isPrefixOf? hfound
      case h_2 =>
        obtain ⟨⟨before, after⟩, hsplit, heq⟩ := Option.map_eq_some_iff.mp h
        obtain ⟨-, rfl⟩ := Prod.mk.inj heq
        apply Nat.le_succ_of_le (ih hsplit)

/-- Appending to a text that holds a mark appends to what follows the first one. -/
theorem splitAtFirst_append (h : splitAtFirst mark text = some (before, after))
    (more : List α) :
  splitAtFirst mark (text ++ more) = some (before, after ++ more)
  := by
  have hlength := length_le_of_splitAtFirst h
  induction text generalizing before with
  | nil =>
      obtain rfl : mark = [] := by simpa using hlength
      obtain ⟨rfl, rfl⟩ : [] = before ∧ [] = after := by simpa [splitAtFirst] using h
      cases more <;> simp [splitAtFirst, List.isPrefixOf?]
  | cons a text ih =>
      have hstart := isPrefixOf?_append hlength more
      unfold splitAtFirst at h
      rw [List.cons_append] at hstart ⊢
      unfold splitAtFirst
      split at h
      case h_1 hfound =>
        obtain ⟨rfl, rfl⟩ := Prod.mk.inj (Option.some.inj h)
        rw [hstart, hfound]
        rfl
      case h_2 hnone =>
        obtain ⟨⟨start, _⟩, hsplit, heq⟩ := Option.map_eq_some_iff.mp h
        obtain ⟨rfl, rfl⟩ := Prod.mk.inj heq
        rw [hstart, hnone, Option.map_none]
        dsimp only
        rw [ih hsplit (length_le_of_splitAtFirst hsplit), Option.map_some]

/-! ### The first occurrence -/

section Lawful

variable [LawfulBEq α]

theorem append_of_splitAtFirst (h : splitAtFirst mark text = some (before, after)) :
  before ++ mark ++ after = text
  := by
  induction text generalizing before with
  | nil =>
      unfold splitAtFirst at h
      split at h
      case isTrue hempty =>
        obtain ⟨rfl, rfl⟩ := Prod.mk.inj (Option.some.inj h)
        simp [List.isEmpty_iff.mp hempty]
      case isFalse => cases h
  | cons a text ih =>
      unfold splitAtFirst at h
      split at h
      case h_1 hfound =>
        obtain ⟨rfl, rfl⟩ := Prod.mk.inj (Option.some.inj h)
        rw [List.nil_append]
        apply List.isPrefixOf?_eq_some_iff_append_eq.mp hfound
      case h_2 =>
        obtain ⟨⟨before, after⟩, hsplit, heq⟩ := Option.map_eq_some_iff.mp h
        obtain ⟨rfl, rfl⟩ := Prod.mk.inj heq
        rw [List.cons_append, List.cons_append, ih hsplit]

/-- A text is not cut exactly if the mark does not occur in it. -/
theorem splitAtFirst_eq_none_iff :
  splitAtFirst mark text = none ↔ ¬ mark <:+: text
  := by
  induction text with
  | nil => simp [splitAtFirst]
  | cons a text ih =>
      rw [List.infix_cons_iff, not_or, ← ih, splitAtFirst]
      cases hstart : mark.isPrefixOf? (a :: text) with
      | some after =>
          have hstarts : mark <+: a :: text :=
            ⟨after, List.isPrefixOf?_eq_some_iff_append_eq.mp hstart⟩
          simp [hstarts]
      | none =>
          have hstarts : ¬ mark <+: a :: text := by
            rintro ⟨after, happend⟩
            rw [List.isPrefixOf?_eq_some_iff_append_eq.mpr happend] at hstart
            cases hstart
          simp [hstarts]

/-- Behind bytes in which no occurrence of the mark ends, a text is cut at the mark. -/
theorem splitAtFirst_of_append (hmark : mark ≠ [])
    (h : ¬ mark <:+: before ++ mark.dropLast) (after : List α) :
  splitAtFirst mark (before ++ mark ++ after) = some (before, after)
  := by
  rw [← List.nil_append after]
  apply splitAtFirst_append
  induction before with
  | nil =>
      obtain ⟨m, rest, rfl⟩ := List.exists_cons_of_ne_nil hmark
      have hstart : (m :: rest).isPrefixOf? (m :: rest) = some [] :=
        List.isPrefixOf?_eq_some_iff_append_eq.mpr (List.append_nil _)
      rw [List.nil_append, splitAtFirst, hstart]
  | cons a before ih =>
      rw [List.cons_append, List.infix_cons_iff, not_or] at h
      have hstart : mark.isPrefixOf? (a :: (before ++ mark)) = none := by
        rw [Option.eq_none_iff_forall_ne_some]
        intro after hsome
        apply h.1
        have happend := List.isPrefixOf?_eq_some_iff_append_eq.mp hsome
        -- The text is longer than the mark, so the mark ends before the last element.
        have hstarts : mark <+: a :: (before ++ mark) := ⟨after, happend⟩
        apply List.prefix_of_prefix_length_le hstarts
        · rw [List.cons_prefix_cons]
          use rfl
          rw [List.prefix_append_right_inj]
          apply List.dropLast_prefix
        · simp only [List.length_cons, List.length_append, List.length_dropLast]
          omega
      rw [List.cons_append, splitAtFirst, hstart, ih h.2]
      rfl

/-- A text is cut at the first occurrence of the mark, before whose end no other one ends. -/
theorem splitAtFirst_eq_some_iff (hmark : mark ≠ []) :
  splitAtFirst mark text = some (before, after)
    ↔ text = before ++ mark ++ after ∧ ¬ mark <:+: before ++ mark.dropLast
  := by
  constructor
  · intro h
    refine ⟨(append_of_splitAtFirst h).symm, ?_⟩
    rw [← splitAtFirst_eq_none_iff]
    cases hearlier : splitAtFirst mark (before ++ mark.dropLast) with
    | none => rfl
    | some found =>
        obtain ⟨start, rest⟩ := found
        -- An earlier occurrence would be where the whole text is cut.
        have hcut := splitAtFirst_append hearlier (mark.getLast hmark :: after)
        have hlength := congrArg List.length (append_of_splitAtFirst hearlier)
        have htext : before ++ mark.dropLast ++ mark.getLast hmark :: after = text := by
          rw [List.append_assoc, List.append_cons, List.dropLast_concat_getLast,
            ← List.append_assoc, append_of_splitAtFirst h]
        rw [htext, h] at hcut
        obtain ⟨rfl, -⟩ := Prod.mk.inj (Option.some.inj hcut)
        have hpos : 0 < mark.length := List.length_pos_iff.mpr hmark
        simp only [List.length_append, List.length_dropLast] at hlength
        omega
  · rintro ⟨rfl, h⟩
    apply splitAtFirst_of_append hmark h

omit [BEq α] [LawfulBEq α] in
/-- No occurrence of a mark begins in front of it and ends within it, if the last element of the
mark is nowhere else in the mark. -/
theorem not_infix_append_dropLast {m : α} (hm : m ∉ mark) (h : ¬ mark ++ [m] <:+: before) :
  ¬ mark ++ [m] <:+: before ++ mark
  := by
  rintro ⟨start, rest, happend⟩
  obtain ⟨between, rfl, -⟩ | ⟨overlap, hoverlap, hmark⟩ := List.append_eq_append_iff.mp happend
  · apply h ⟨start, between, rfl⟩
  · obtain rfl | ⟨overlap, b, rfl⟩ := List.eq_nil_or_concat overlap
    · rw [List.append_nil] at hoverlap
      apply h ⟨start, [], by rw [hoverlap, List.append_nil]⟩
    · -- The occurrence and the overlap both end with `m`.
      rw [← List.append_assoc, List.concat_eq_append, ← List.append_assoc] at hoverlap
      obtain ⟨-, hb⟩ := List.append_inj' hoverlap rfl
      obtain rfl : m = b := by simpa using hb
      apply hm
      simp [hmark]

/-- A beginning of a text that stops before the end of the first mark is not cut. -/
theorem splitAtFirst_of_prefix_of_lt {start : List α} (hmark : mark ≠ [])
    (h : splitAtFirst mark text = some (before, after)) (hstart : start <+: text)
    (hlength : start.length < (before ++ mark).length) :
  splitAtFirst mark start = none
  := by
  obtain ⟨rfl, hfirst⟩ := (splitAtFirst_eq_some_iff hmark).mp h
  rw [splitAtFirst_eq_none_iff]
  intro hoccurs
  apply hfirst
  apply hoccurs.trans
  apply List.IsPrefix.isInfix
  apply List.prefix_of_prefix_length_le hstart
  · rw [List.append_assoc, List.prefix_append_right_inj]
    apply (List.dropLast_prefix mark).trans
    apply List.prefix_append
  · have hpos : 0 < mark.length := List.length_pos_iff.mpr hmark
    simp only [List.length_append, List.length_dropLast] at hlength ⊢
    omega

/-- A beginning of a text that reaches the end of the first mark is cut where the text is. -/
theorem splitAtFirst_of_prefix_of_le {start : List α} (hmark : mark ≠ [])
    (h : splitAtFirst mark text = some (before, after)) (hstart : start <+: text)
    (hlength : (before ++ mark).length ≤ start.length) :
  splitAtFirst mark start = some (before, start.drop (before ++ mark).length)
  := by
  obtain ⟨rfl, hfirst⟩ := (splitAtFirst_eq_some_iff hmark).mp h
  rw [splitAtFirst_eq_some_iff hmark]
  refine ⟨?_, hfirst⟩
  symm
  rw [← List.prefix_iff_eq_append]
  apply List.prefix_of_prefix_length_le (List.prefix_append _ after) hstart hlength

end Lawful

end FirmwareUpdate.Text
