import FirmwareUpdate.Record.Reader
import Mathlib.Data.List.TakeDrop

/-!
# What a reader yields

A reader yields a value from the front of a text and leaves the rest of the text. Readers that
follow one another yield what each of them does from what the one before has left.
-/

namespace FirmwareUpdate.Record.Reader

variable {α β : Type} {reader : Reader α} {a : α} {b : β} {text middle rest : Bytes}

/-- The value that a reader yields from a text, and the rest that it leaves. -/
def Yields (reader : Reader α) (text : Bytes) (a : α) (rest : Bytes) : Prop :=
  reader.run text = (.ok a, rest)

namespace Yields

theorem pure (a : α) (text : Bytes) :
  Yields (pure a) text a text
  := rfl

theorem bind {next : α → Reader β} (h : Yields reader text a middle)
    (hnext : Yields (next a) middle b rest) :
  Yields (reader >>= next) text b rest
  := by
  have hrun : (reader >>= next).run text
      = ExceptT.bindCont next (reader.run text).1 (reader.run text).2 := rfl
  rw [Yields, hrun, h]
  exact hnext

theorem map (f : α → β) (h : Yields reader text a rest) :
  Yields (f <$> reader) text (f a) rest
  := by
  rw [map_eq_pure_bind]
  apply h.bind
  apply pure

theorem attempt (h : Yields reader text a rest) :
  Yields reader.attempt text (.ok a) rest
  := by
  have hrun : reader.attempt.run text = (.ok (reader.run text).1, (reader.run text).2) := rfl
  rw [Yields, hrun, h]

theorem placed (h : Yields reader text a rest) :
  Yields reader.placed text a rest
  := by
  apply h.attempt.bind
  apply pure

end Yields

theorem yields_get (text : Bytes) :
  Yields get text text text
  := rfl

theorem yields_set (text rest : Bytes) :
  Yields (set rest) text () rest
  := rfl

theorem yields_peek (text : Bytes) :
  Yields peek text text.head? text
  := rfl

theorem yields_next (c : UInt8) (rest : Bytes) :
  Yields next (c :: rest) (some c) rest
  := rfl

theorem yields_drop (c : UInt8) (rest : Bytes) :
  Yields drop (c :: rest) () rest
  := rfl

/-- Nothing is passed over in front of a byte that is not a space. -/
theorem yields_peekVisible {c : UInt8} (h : isSpace c = false) (rest : Bytes) :
  Yields peekVisible (c :: rest) (some c) (c :: rest)
  := by
  have hrun : peekVisible.run (c :: rest) = (.ok ((c :: rest).dropWhile isSpace).head?,
      (c :: rest).dropWhile isSpace) := rfl
  rw [Yields, hrun, List.dropWhile_cons_of_neg (by simp [h])]
  rfl

theorem isSpace_of_isDigit {c : UInt8} (h : digits.isDigit c = true) :
  isSpace c = false
  := by
  simp only [digits.isDigit, Bool.and_eq_true, decide_eq_true_eq, UInt8.le_iff_toNat_le] at h
  simp only [isSpace, Bool.or_eq_false_iff, beq_eq_false_iff_ne, ne_eq, ← UInt8.toNat_inj]
  refine ⟨⟨⟨?_, ?_⟩, ?_⟩, ?_⟩
  all_goals
    intro hspace
    rw [hspace] at h
    exact absurd h.1 (by decide)

theorem yields_peekVisible_nil :
  Yields peekVisible [] none []
  := rfl

theorem yields_word (letters rest : Bytes) :
  Yields (word letters) (letters ++ rest) () rest
  := by
  induction letters with
  | nil => apply Yields.pure
  | cons c letters ih =>
      apply (yields_next c (letters ++ rest)).bind
      dsimp only
      rw [if_pos rfl]
      exact ih

/-- A run of digits ends in front of anything else. -/
theorem yields_digits {run : Bytes} (hrun : ∀ c ∈ run, digits.isDigit c = true)
    (hrest : ∀ c ∈ rest.head?, digits.isDigit c = false) :
  Yields digits (run ++ rest) (run.map fun c => c.toNat - 48) rest
  := by
  have hspan : (run ++ rest).span digits.isDigit = (run, rest) := by
    rw [List.span_eq_takeWhile_dropWhile, List.takeWhile_append_of_pos hrun,
      List.dropWhile_append_of_pos hrun]
    cases rest with
    | nil => simp
    | cons c rest => simp [hrest c rfl]
  have hdigits : digits.run (run ++ rest)
      = (.ok (((run ++ rest).span digits.isDigit).1.map fun c => c.toNat - 48),
        ((run ++ rest).span digits.isDigit).2) := rfl
  rw [Yields, hdigits, hspan]

end FirmwareUpdate.Record.Reader
