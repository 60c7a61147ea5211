import FirmwareUpdate.Pem
import FirmwareUpdate.Proofs.Base64
import FirmwareUpdate.Proofs.Http.Plain
import FirmwareUpdate.Proofs.Text.Split

/-!
# Blocks in any text

The first block of a text is found whatever stands around it, and however blanks are strewn into its
symbols. For the marks do not overlap with what is in front of them: a label and symbols hold no
dashes, and what a begin line starts with ends with a blank that is nowhere else in it. Conversely
the content of a block that is found has just the symbols that stand between its marks.

The main statement is `decode_wrapped`.
-/

namespace FirmwareUpdate

/-- The signs of base64 texts are letters in ASCII, and neither blank nor a dash. -/
theorem Base64.plain_of_mem_encode {bytes : Bytes} {b : UInt8} (h : b ∈ encode bytes) :
  b.toNat < 128 ∧ Char.ofNat b.toNat ≠ '-' ∧ Text.isBlank (Char.ofNat b.toNat) = false
  := by
  have hsymbol : ∀ n < 64, (symbol n).toNat < 128 ∧ Char.ofNat (symbol n).toNat ≠ '-'
      ∧ Text.isBlank (Char.ofNat (symbol n).toNat) = false := by
    decide +kernel
  rw [encode_eq, spell, List.mem_append, List.mem_map] at h
  obtain ⟨n, hn, rfl⟩ | hpad := h
  · exact hsymbol n ((spread_spread bytes).lt n hn)
  · rw [List.eq_of_mem_replicate hpad]
    decide +kernel

/-- Rows hold what has been put on them. -/
theorem Text.flatten_rows {α : Type} {width : Nat} (hwidth : 0 < width) (sequence : List α) :
  (Text.rows width sequence).flatten = sequence
  := by
  have hgo : ∀ (count : Nat) (sequence : List α), sequence.length ≤ count →
      (Text.rows.go width count sequence).flatten = sequence := by
    intro count
    induction count with
    | zero =>
        intro sequence hlength
        obtain rfl : sequence = [] := List.length_eq_zero_iff.mp (Nat.le_zero.mp hlength)
        rfl
    | succ count ih =>
        intro sequence hlength
        cases sequence with
        | nil => rfl
        | cons a rest =>
            rw [Text.rows.go, List.flatten_cons, ih, List.take_append_drop]
            · simp only [List.length_drop, List.length_cons] at hlength ⊢
              omega
            · rintro ⟨⟩
  exact hgo sequence.length sequence (Nat.le_refl _)

namespace Pem

variable {text lead label body trail : List Char} {content : Bytes} {block : Block}

/-- The letters of the base64 text of bytes. -/
def letters (content : Bytes) : List Char :=
  (Base64.encode content).map fun b => Char.ofNat b.toNat

theorem encode_letters (content : Bytes) :
  Utf8.encode (letters content) = Base64.encode content
  := Utf8.encode_ascii fun _ hb => (Base64.plain_of_mem_encode hb).1

/-- Letters stand for the bytes that they are the letters of. -/
theorem decode_letters_iff :
  Base64.decode (Utf8.encode text) = .ok content ↔ text = letters content
  := by
  rw [Base64.decode_eq_ok_iff, ← encode_letters]
  exact Utf8.encode_injective.eq_iff

/-- The steps in which a block is found. -/
theorem decode_steps :
  decode text = .ok block
    ↔ ∃ lead rest₁ rest₂ body trail,
      Text.splitAtFirst beginMark text = some (lead, rest₁)
        ∧ Text.splitAtFirst dashes rest₁ = some (block.label, rest₂)
        ∧ Text.splitAtFirst (endMark block.label) rest₂ = some (body, trail)
        ∧ body.filter (!Text.isBlank ·) = letters block.content
  := by
  constructor
  · intro h
    rw [decode] at h
    split at h
    case h_2 => cases h
    case h_1 lead rest₁ hbegin =>
      split at h
      case h_2 => cases h
      case h_1 label rest₂ hlabel =>
        split at h
        case h_2 => cases h
        case h_1 body trail hend =>
          split at h
          case h_1 => cases h
          case h_2 content hcontent =>
            cases h
            exact ⟨lead, rest₁, rest₂, body, trail, hbegin, hlabel, hend,
              decode_letters_iff.mp hcontent⟩
  · rintro ⟨lead, rest₁, rest₂, body, trail, hbegin, hlabel, hend, hletters⟩
    simp only [decode, hbegin, hlabel, hend, decode_letters_iff.mpr hletters]

/-- Where the marks of a block stand. -/
theorem decode_marks :
  decode text = .ok block
    ↔ ∃ lead body trail,
      text = lead ++ beginMark ++ block.label ++ dashes ++ body ++ endMark block.label ++ trail
        ∧ ¬ beginMark <:+: lead ++ beginMark.dropLast
        ∧ ¬ dashes <:+: block.label ++ dashes.dropLast
        ∧ ¬ endMark block.label <:+: body ++ (endMark block.label).dropLast
        ∧ body.filter (!Text.isBlank ·) = letters block.content
  := by
  have hbegin : beginMark ≠ [] := by decide +kernel
  have hdashes : dashes ≠ [] := by decide +kernel
  have hend : endMark block.label ≠ [] := List.append_ne_nil_of_right_ne_nil _ hdashes
  simp only [decode_steps, Text.splitAtFirst_eq_some_iff hbegin,
    Text.splitAtFirst_eq_some_iff hdashes, Text.splitAtFirst_eq_some_iff hend]
  constructor
  · rintro ⟨lead, _, _, body, trail, ⟨rfl, hlead⟩, ⟨rfl, hlabel⟩, ⟨rfl, hbody⟩, hletters⟩
    exact ⟨lead, body, trail, by simp only [List.append_assoc], hlead, hlabel, hbody, hletters⟩
  · rintro ⟨lead, body, trail, rfl, hlead, hlabel, hbody, hletters⟩
    exact ⟨lead, _, _, body, trail, ⟨by simp only [List.append_assoc], hlead⟩, ⟨rfl, hlabel⟩,
      ⟨rfl, hbody⟩, hletters⟩

theorem dash_not_mem_of_filter {wrapped : List Char}
    (hletters : wrapped.filter (!Text.isBlank ·) = letters content) :
  '-' ∉ wrapped
  := by
  intro hdash
  have hkept : '-' ∈ letters content := by
    rw [← hletters, List.mem_filter]
    exact ⟨hdash, by decide +kernel⟩
  obtain ⟨b, hb, hletter⟩ := List.mem_map.mp hkept
  exact (Base64.plain_of_mem_encode hb).2.1 hletter

/-- Nothing before the begin line is taken for the mark that it starts with. -/
theorem beginMark_not_overlapping (h : ¬ beginMark <:+: lead) :
  ¬ beginMark <:+: lead ++ beginMark.dropLast
  := by
  have hmark : beginMark = "-----BEGIN".toList ++ [' '] := by decide +kernel
  have hlast : ' ' ∉ "-----BEGIN".toList := by decide +kernel
  rw [hmark] at h ⊢
  rw [List.dropLast_concat]
  exact Text.not_infix_append_dropLast hlast h

/-- A mark that starts with a dash does not overlap with a text without dashes. -/
theorem mark_not_overlapping {mark before : List Char} (hmark : mark.head? = some '-')
    (h : '-' ∉ before) :
  ¬ mark <:+: before ++ mark.dropLast
  := by
  obtain ⟨rest, rfl⟩ := List.head?_eq_some_iff.mp hmark
  have hstart : ('-' :: rest).isPrefixOf? ('-' :: rest) = some [] :=
    List.isPrefixOf?_eq_some_iff_append_eq.mpr (List.append_nil _)
  have hcut : Text.splitAtFirst ('-' :: rest) (before ++ '-' :: rest) = some (before, []) := by
    rw [Text.splitAtFirst_skip h hmark, Text.splitAtFirst, hstart]
    simp
  exact ((Text.splitAtFirst_eq_some_iff (List.cons_ne_nil _ _)).mp hcut).2

/-- A block is found in any text that it is written into. -/
theorem decode_written {wrapped : List Char} (hlabel : '-' ∉ block.label)
    (hlead : ¬ beginMark <:+: lead)
    (hletters : wrapped.filter (!Text.isBlank ·) = letters block.content) :
  decode (lead ++ beginMark ++ block.label ++ dashes ++ wrapped ++ endMark block.label ++ trail)
    = .ok block
  := by
  apply decode_marks.mpr
  refine ⟨lead, wrapped, trail, rfl, beginMark_not_overlapping hlead, ?_, ?_, hletters⟩
  · apply mark_not_overlapping rfl hlabel
  · apply mark_not_overlapping rfl (dash_not_mem_of_filter hletters)

/-- Without the ends of the lines, the lines are what has been put on them. -/
theorem filter_wrap {symbols : List Char} (h : ∀ c ∈ symbols, Text.isBlank c = false) :
  (wrap symbols).filter (!Text.isBlank ·) = symbols
  := by
  have hline : ∀ row ∈ Text.rows 64 symbols,
      (row ++ ['\n']).filter (!Text.isBlank ·) = row := by
    intro row hrow
    have hmem : ∀ c ∈ row, c ∈ symbols := by
      intro c hc
      rw [← Text.flatten_rows (by decide : 0 < 64) symbols]
      apply List.mem_flatten_of_mem hrow hc
    rw [List.filter_append, List.filter_eq_self.mpr, List.filter_cons_of_neg, List.filter_nil,
      List.append_nil]
    · decide +kernel
    · intro c hc
      rw [h c (hmem c hc)]
      rfl
  rw [wrap, List.filter_flatMap, List.flatMap_congr hline, List.flatMap_id']
  exact Text.flatten_rows (by decide) symbols

/-- What has been written is read again. -/
theorem decode_encode (hlabel : '-' ∉ block.label) :
  decode (encode block) = .ok block
  := by
  have hlead : ¬ beginMark <:+: [] := by decide +kernel
  have hletters : ('\n' :: wrap (letters block.content)).filter (!Text.isBlank ·)
      = letters block.content := by
    rw [List.filter_cons_of_neg (by decide +kernel), filter_wrap]
    rintro _ hc
    obtain ⟨b, hb, rfl⟩ := List.mem_map.mp hc
    exact (Base64.plain_of_mem_encode hb).2.2
  exact decode_written hlabel hlead hletters

/-- A block is found in any text that it is written into, and what is found is written there: the
symbols between the first marks, without the blanks among them, are those of the content. -/
theorem decode_wrapped (text : List Char) (block : Block) :
  (∀ lead wrapped trail : List Char, '-' ∉ block.label → ¬ beginMark <:+: lead →
      wrapped.filter (!Text.isBlank ·) = letters block.content →
      decode (lead ++ beginMark ++ block.label ++ dashes ++ wrapped ++ endMark block.label ++ trail)
        = .ok block)
    ∧ (decode text = .ok block ↔ ∃ lead body trail,
      text = lead ++ beginMark ++ block.label ++ dashes ++ body ++ endMark block.label ++ trail
        ∧ ¬ beginMark <:+: lead ++ beginMark.dropLast
        ∧ ¬ dashes <:+: block.label ++ dashes.dropLast
        ∧ ¬ endMark block.label <:+: body ++ (endMark block.label).dropLast
        ∧ body.filter (!Text.isBlank ·) = letters block.content)
  := by
  refine ⟨?_, decode_marks⟩
  intro lead wrapped trail hlabel hlead hletters
  apply decode_written hlabel hlead hletters

end Pem

end FirmwareUpdate
