import FirmwareUpdate.Text.Blank
import FirmwareUpdate.Text.Split
import Mathlib.Data.List.TakeDrop
import Mathlib.Data.List.TakeWhile
import Mathlib.Tactic.Common

/-!
# Lines that are put together

Lines that were put together are read one by one, and the parts of a line are found again at its
mark. Texts without blanks are as they are when they have been trimmed.
-/

namespace FirmwareUpdate.Text

/-! ### Marks -/

section

variable {α : Type _} [BEq α] [LawfulBEq α] {mark : α} {before : List α}

/-- A text is cut at the first mark. -/
theorem splitOnce_append (h : mark ∉ before) (after : List α) :
  splitOnce mark (before ++ mark :: after) = some (before, after)
  := by
  have hbefore : ∀ a ∈ before, (a != mark) = true := by
    intro a ha
    rw [bne_iff_ne]
    rintro rfl
    apply h ha
  have htake : (before ++ mark :: after).takeWhile (· != mark) = before := by
    rw [List.takeWhile_append_of_pos hbefore, List.takeWhile_cons_of_neg (by simp),
      List.append_nil]
  have hdrop : (before ++ mark :: after).dropWhile (· != mark) = mark :: after := by
    rw [List.dropWhile_append_of_pos hbefore, List.dropWhile_cons_of_neg (by simp)]
  have hspan : (before ++ mark :: after).span (· != mark) = (before, mark :: after) := by
    rw [List.span_eq_takeWhile_dropWhile, htake, hdrop]
  rw [splitOnce, hspan]

/-- The two parts of a text that is cut. -/
theorem splitOnce_eq_some_iff {text after : List α} :
  splitOnce mark text = some (before, after) ↔ text = before ++ mark :: after ∧ mark ∉ before
  := by
  constructor
  · intro h
    rw [splitOnce, List.span_eq_takeWhile_dropWhile] at h
    split at h
    case h_1 => cases h
    case h_2 start m rest hspan =>
      obtain ⟨rfl, rfl⟩ := Prod.mk.inj (Option.some.inj h)
      obtain ⟨htake, hdrop⟩ := Prod.mk.inj hspan
      have hm : m = mark := by
        have hhead := List.head?_dropWhile_not (· != mark) text
        rw [hdrop] at hhead
        simpa using hhead
      subst hm
      constructor
      · rw [← htake, ← hdrop, List.takeWhile_append_dropWhile]
      · intro hmem
        rw [← htake] at hmem
        simpa using List.mem_takeWhile_imp hmem
  · rintro ⟨rfl, hbefore⟩
    apply splitOnce_append hbefore

/-- A text is not cut only if the mark is not in it. -/
theorem splitOnce_eq_none_iff {text : List α} :
  splitOnce mark text = none ↔ mark ∉ text
  := by
  constructor
  · intro h hmem
    obtain ⟨before, after, rfl, hbefore⟩ := List.eq_append_cons_of_mem hmem
    rw [splitOnce_append hbefore] at h
    cases h
  · intro h
    rw [Option.eq_none_iff_forall_ne_some]
    rintro ⟨before, after⟩ hcut
    obtain ⟨rfl, -⟩ := splitOnce_eq_some_iff.mp hcut
    simp at h

omit [LawfulBEq α] in
theorem splitOn_ne_nil (mark : α) (text : List α) :
  splitOn mark text ≠ []
  := by
  cases text with
  | nil => rintro ⟨⟩
  | cons a rest =>
      rw [splitOn]
      split
      · rintro ⟨⟩
      · split
        · rintro ⟨⟩
        · rintro ⟨⟩

/-- The first piece ends at the first mark. -/
theorem splitOn_append (h : mark ∉ before) (rest : List α) :
  splitOn mark (before ++ mark :: rest) = before :: splitOn mark rest
  := by
  induction before with
  | nil => rw [List.nil_append, splitOn, if_pos (beq_self_eq_true mark)]
  | cons a before ih =>
      rw [List.mem_cons, not_or] at h
      have ha : ¬ (a == mark) = true := by
        rw [beq_iff_eq]
        exact Ne.symm h.1
      rw [List.cons_append, splitOn, if_neg ha, ih h.2]

/-- A text without the mark is one piece. -/
theorem splitOn_of_not_mem (h : mark ∉ before) :
  splitOn mark before = [before]
  := by
  induction before with
  | nil => rfl
  | cons a before ih =>
      rw [List.mem_cons, not_or] at h
      have ha : ¬ (a == mark) = true := by
        rw [beq_iff_eq]
        exact Ne.symm h.1
      rw [splitOn, if_neg ha, ih h.2]

/-- Pieces that each end with the mark, and nothing behind the last one. -/
theorem splitOn_flatMap {pieces : List (List α)} (h : ∀ piece ∈ pieces, mark ∉ piece) :
  splitOn mark (pieces.flatMap (· ++ [mark])) = pieces ++ [[]]
  := by
  induction pieces with
  | nil => rfl
  | cons piece pieces ih =>
      rw [List.flatMap_cons, List.append_assoc, List.singleton_append,
        splitOn_append (h piece List.mem_cons_self),
        ih fun other hother => h other (List.mem_cons_of_mem piece hother), List.cons_append]

/-- The mark is in none of the pieces. -/
theorem not_mem_of_mem_splitOn {piece text : List α} (h : piece ∈ splitOn mark text) :
  mark ∉ piece
  := by
  induction text generalizing piece with
  | nil =>
      rw [splitOn, List.mem_singleton] at h
      rw [h]
      apply List.not_mem_nil
  | cons a rest ih =>
      rw [splitOn] at h
      split at h
      case isTrue =>
        obtain rfl | h := List.mem_cons.mp h
        · apply List.not_mem_nil
        · apply ih h
      case isFalse ha =>
        split at h
        case h_1 hnil => exact absurd hnil (splitOn_ne_nil mark rest)
        case h_2 first more hpieces =>
          rw [hpieces] at ih
          obtain rfl | h := List.mem_cons.mp h
          · rw [List.mem_cons, not_or]
            refine ⟨?_, ih List.mem_cons_self⟩
            rintro rfl
            exact ha (beq_self_eq_true mark)
          · exact ih (List.mem_cons_of_mem first h)

end

/-! ### Lines -/

/-- What ends a line of a message head. -/
def lineEnd : List Char := ['\r', '\n']

theorem splitHead_cons {c : Char} {text piece : List Char} {more : List (List Char)}
    (h : ∀ rest, c = '\r' → text = '\n' :: rest → False)
    (hpieces : splitHead text = piece :: more) :
  splitHead (c :: text) = (c :: piece) :: more
  := by
  rw [splitHead, hpieces]
  exact h

theorem splitHead_ne_nil (text : List Char) :
  splitHead text ≠ []
  := by
  induction text using splitHead.induct with
  | case1 => rintro ⟨⟩
  | case2 text ih => rintro ⟨⟩
  | case3 c text h hnil ih => exact absurd hnil ih
  | case4 c text h piece more hpieces ih =>
      rw [splitHead_cons h hpieces]
      rintro ⟨⟩

/-- What stands in front of a line end is cut apart from what follows it. -/
theorem splitHead_append_lineEnd (text rest : List Char) :
  splitHead (text ++ (lineEnd ++ rest)) = splitHead text ++ splitHead rest
  := by
  induction text using splitHead.induct with
  | case1 => rfl
  | case2 text ih =>
      rw [List.cons_append, List.cons_append, splitHead, splitHead, ih, List.cons_append]
  | case3 c text h hnil ih => exact absurd hnil (splitHead_ne_nil text)
  | case4 c text h piece more hpieces ih =>
      rw [hpieces, List.cons_append] at ih
      rw [splitHead_cons h hpieces, List.cons_append, List.cons_append]
      apply splitHead_cons _ ih
      intro after hc htext
      cases text with
      | nil => cases htext
      | cons d text =>
          obtain ⟨rfl⟩ := List.cons.inj htext
          exact h _ hc rfl

/-- A text without a line end is one line. -/
theorem splitHead_of_oneLine {text : List Char} (h : ¬ lineEnd <:+: text) :
  splitHead text = [text]
  := by
  induction text using splitHead.induct with
  | case1 => rfl
  | case2 text ih => exact absurd (List.prefix_append lineEnd text).isInfix h
  | case3 c text hc hnil ih => exact absurd hnil (splitHead_ne_nil text)
  | case4 c text hc piece more hpieces ih =>
      apply splitHead_cons hc
      apply ih
      intro hend
      apply h (hend.trans (List.suffix_cons c text).isInfix)

/-- A text is one line exactly if there is no line end in it. -/
theorem splitHead_eq_singleton_iff {text line : List Char} :
  splitHead text = [line] ↔ text = line ∧ ¬ lineEnd <:+: line
  := by
  constructor
  · intro hone
    have h : ¬ lineEnd <:+: text := by
      rintro ⟨before, after, rfl⟩
      have hlength := congrArg List.length hone
      have hbefore := List.length_pos_iff.mpr (splitHead_ne_nil before)
      have hafter := List.length_pos_iff.mpr (splitHead_ne_nil after)
      rw [List.append_assoc, splitHead_append_lineEnd, List.length_append,
        List.length_singleton] at hlength
      omega
    obtain ⟨rfl⟩ := (splitHead_of_oneLine h).symm.trans hone
    exact ⟨rfl, h⟩
  · rintro ⟨rfl, h⟩
    exact splitHead_of_oneLine h

theorem oneLine_of_not_mem {line : List Char} (h : '\r' ∉ line) :
  ¬ lineEnd <:+: line
  := fun hend => h (hend.subset List.mem_cons_self)

/-- A line end does not start in a text without carriage returns in front of another. -/
theorem infix_append_left_iff {before text : List Char} (h : '\r' ∉ before) :
  lineEnd <:+: before ++ text ↔ lineEnd <:+: text
  := by
  induction before with
  | nil => rfl
  | cons c before ih =>
      rw [List.mem_cons, not_or] at h
      have hstart : ¬ lineEnd <+: c :: (before ++ text) := by
        intro hfirst
        exact h.1 (List.cons_prefix_cons.mp hfirst).1
      rw [List.cons_append, List.infix_cons_iff, or_iff_right hstart, ih h.2]

/-- Neither does one end in a text without line feeds behind another. -/
theorem infix_append_right_iff {text after : List Char} (h : '\n' ∉ after) :
  lineEnd <:+: text ++ after ↔ lineEnd <:+: text
  := by
  induction text with
  | nil =>
      have hafter : ¬ lineEnd <:+: after := fun hend => h (hend.subset (by simp [lineEnd]))
      simpa [lineEnd] using hafter
  | cons c text ih =>
      have hstart : lineEnd <+: c :: (text ++ after) ↔ lineEnd <+: c :: text := by
        cases text with
        | nil =>
            have hfirst : ¬ ['\n'] <+: after := fun hstart => h (hstart.subset (by simp))
            simp [lineEnd, List.cons_prefix_cons, hfirst]
        | cons d text => simp [lineEnd, List.cons_prefix_cons]
      rw [List.cons_append, List.infix_cons_iff, List.infix_cons_iff, hstart, ih]

/-- A line of a message head ends at its carriage return and line feed. -/
theorem splitHead_append {line : List Char} (h : '\r' ∉ line) (rest : List Char) :
  splitHead (line ++ '\r' :: '\n' :: rest) = line :: splitHead rest
  := by
  change splitHead (line ++ (lineEnd ++ rest)) = _
  rw [splitHead_append_lineEnd, splitHead_of_oneLine (oneLine_of_not_mem h)]
  rfl

/-- The last line of a message head. -/
theorem splitHead_of_not_mem {line : List Char} (h : '\r' ∉ line) :
  splitHead line = [line]
  := splitHead_of_oneLine (oneLine_of_not_mem h)

/-! ### Blanks -/

/-- Neither end of the text is blank. -/
structure Trimmed (text : List Char) : Prop where
  head : ∀ c ∈ text.head?, isBlank c = false
  last : ∀ c ∈ text.getLast?, isBlank c = false

theorem trimStart_of_head {text : List Char} (h : ∀ c ∈ text.head?, isBlank c = false) :
  trimStart text = text
  := by
  cases text with
  | nil => rfl
  | cons c rest => rw [trimStart, List.dropWhile_cons_of_neg (by simp [h c rfl])]

theorem trimEnd_of_last {text : List Char} (h : ∀ c ∈ text.getLast?, isBlank c = false) :
  trimEnd text = text
  := by
  have hreverse : trimStart text.reverse = text.reverse := trimStart_of_head (by simpa using h)
  rw [trimStart] at hreverse
  rw [trimEnd, hreverse, List.reverse_reverse]

theorem Trimmed.trim_eq {text : List Char} (h : Trimmed text) :
  trim text = text
  := by
  rw [trim, trimStart_of_head h.head, trimEnd_of_last h.last]

theorem head_trimStart (text : List Char) :
  ∀ c ∈ (trimStart text).head?, isBlank c = false
  := by
  intro c hc
  have hhead := List.head?_dropWhile_not isBlank text
  rwa [← trimStart, hc] at hhead

/-- What is left of the start of a text stands at its start. -/
theorem trimEnd_isPrefix (text : List Char) :
  trimEnd text <+: text
  := by
  rw [← List.reverse_suffix, trimEnd, List.reverse_reverse]
  apply List.dropWhile_suffix

theorem trim_infix (text : List Char) :
  trim text <:+: text
  := (trimEnd_isPrefix _).isInfix.trans (List.dropWhile_suffix _).isInfix

/-- Trimming leaves no blank at either end. -/
theorem trimmed_trim (text : List Char) :
  Trimmed (trim text)
  := by
  constructor
  · intro c hc
    obtain ⟨rest, hrest⟩ := trimEnd_isPrefix (trimStart text)
    obtain ⟨more, hmore⟩ := List.head?_eq_some_iff.mp hc
    apply head_trimStart text
    rw [← hrest, ← trim, hmore]
    rfl
  · intro c hc
    rw [trim, trimEnd, List.getLast?_reverse] at hc
    apply head_trimStart (trimStart text).reverse c hc

/-- Blanks at the end of a text are trimmed. -/
theorem trim_append_blanks {blanks : List Char} (h : ∀ c ∈ blanks, isBlank c = true)
    (text : List Char) :
  trim (text ++ blanks) = trim text
  := by
  have hblanks : blanks.dropWhile isBlank = [] := List.dropWhile_eq_nil_iff.mpr h
  have hreverse : ∀ c ∈ blanks.reverse, isBlank c = true := by simpa using h
  rw [trim, trim, trimStart, trimStart, List.dropWhile_append]
  split
  case isTrue hempty => rw [hblanks, List.isEmpty_iff.mp hempty]
  case isFalse =>
    rw [trimEnd, List.reverse_append, List.dropWhile_append_of_pos hreverse, ← trimEnd]

/-- Blanks at the start of a text are trimmed. -/
theorem trim_blanks_append {blanks : List Char} (h : ∀ c ∈ blanks, isBlank c = true)
    (text : List Char) :
  trim (blanks ++ text) = trim text
  := by
  rw [trim, trim, trimStart, trimStart, List.dropWhile_append_of_pos h]

theorem trim_dropReturn (line : List Char) :
  trim (dropReturn line) = trim line
  := by
  rw [dropReturn]
  split
  case isTrue hlast =>
    obtain ⟨before, rfl⟩ := List.getLast?_eq_some_iff.mp (beq_iff_eq.mp hlast)
    rw [List.dropLast_concat, trim_append_blanks]
    simp [isBlank]
  case isFalse => rfl

theorem trimmed_of_not_blank {text : List Char} (h : ∀ c ∈ text, isBlank c = false) :
  Trimmed text
  := ⟨fun c hc => h c (List.mem_of_head? hc), fun c hc => h c (List.mem_of_getLast? hc)⟩

/-- A text without blanks is not trimmed. -/
theorem trim_of_not_blank {text : List Char} (h : ∀ c ∈ text, isBlank c = false) :
  trim text = text
  := (trimmed_of_not_blank h).trim_eq

/-- A letter is a blank in either case or in none. -/
theorem isBlank_toLower (c : Char) :
  isBlank c.toLower = isBlank c
  := by
  by_cases hupper : c.toNat < 91
  · have hletters : ∀ n < 91, isBlank (Char.ofNat n).toLower = isBlank (Char.ofNat n) := by decide
    rw [← Char.ofNat_toNat c]
    exact hletters c.toNat hupper
  · have hlast : ¬ c.val ≤ 'Z'.val := by
      rw [UInt32.le_iff_toNat_le]
      change ¬ c.toNat ≤ 90
      omega
    have hsame : c.toLower = c := dif_neg fun h => hlast h.2
    rw [hsame]

/-- What is not blank does not end a line. -/
theorem not_mem_of_not_blank {text : List Char} {c : Char} (h : ∀ c ∈ text, isBlank c = false)
    (hc : isBlank c = true) :
  c ∉ text
  := by
  intro hmem
  cases (h c hmem).symm.trans hc

/-! ### Words -/

theorem pieces_ne_nil (text : List Char) :
  words.pieces text ≠ []
  := by
  cases text with
  | nil => rintro ⟨⟩
  | cons c rest =>
      rw [words.pieces]
      split
      · rintro ⟨⟩
      · split <;> rintro ⟨⟩

theorem pieces_blank_cons {c : Char} (h : isBlank c = true) (rest : List Char) :
  words.pieces (c :: rest) = [] :: words.pieces rest
  := by
  rw [words.pieces]
  split
  case h_1 hnil => apply absurd hnil (pieces_ne_nil rest)
  case h_2 hcons => rw [if_pos h, hcons]

theorem pieces_append {word : List Char} {c : Char} (hword : ∀ c ∈ word, isBlank c = false)
    (h : isBlank c = true) (rest : List Char) :
  words.pieces (word ++ c :: rest) = word :: words.pieces rest
  := by
  induction word with
  | nil => apply pieces_blank_cons h
  | cons first word ih =>
      obtain ⟨hfirst, hword⟩ := List.forall_mem_cons.mp hword
      rw [List.cons_append, words.pieces, ih hword]
      dsimp only
      rw [if_neg (by simp [hfirst])]

/-- A word ends before a blank. -/
theorem words_append {word : List Char} {c : Char} (hne : word ≠ [])
    (hword : ∀ c ∈ word, isBlank c = false) (h : isBlank c = true) (rest : List Char) :
  words (word ++ c :: rest) = word :: words rest
  := by
  rw [words, words, pieces_append hword h, List.filter_cons_of_pos (by simpa using hne)]

end FirmwareUpdate.Text
