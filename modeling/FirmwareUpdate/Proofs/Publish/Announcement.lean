import FirmwareUpdate.Proofs.Metadata.Writing
import FirmwareUpdate.Proofs.Text.Utf8
import FirmwareUpdate.Publish.Announcement

/-!
# Reading what has been announced

A device reads an announcement as it was published. The path is absolute and has no blanks, so it is
a line of its own whatever else is in it, an equality sign or letters that take several bytes; and
the whole file is short.

The main statement is `parse_render_iff`.
-/

namespace FirmwareUpdate

/-- A number below 2³² has at most ten digits. -/
theorem size_toString_le (n : UInt32) :
  (toString n).utf8ByteSize ≤ 10
  := by
  rw [← Utf8.length_utf8, utf8, toList_toString_uint32, Utf8.length_encode_of_ascii]
  · apply Text.length_decimal_le (by decide)
    apply Nat.lt_of_lt_of_le n.toNat_lt
    decide
  · intro c hc
    apply Nat.lt_of_le_of_lt (Text.toNat_of_isDigit (Text.isDigit_decimal hc)).2
    decide

namespace Metadata

variable {version : UInt32} {path : String} {interval : Option UInt32} {m : Metadata}

/-- What the publisher lets through. -/
theorem announce_eq (h : Publish.announce version path interval = .ok m) :
  ∃ file : ImagePath, file.text = path ∧ m = ⟨some version, some file, interval⟩
    ∧ path.toList ≠ [] ∧ ∀ c ∈ path.toList, Text.isBlank c = false
  := by
  unfold Publish.announce at h
  split at h
  · cases h
  case isFalse habsolute =>
  split at h
  · cases h
  case isFalse hblank =>
  split at h
  · cases h
  case h_2 file hfile =>
  obtain ⟨rfl⟩ := h
  unfold ImagePath.ofString? at hfile
  split at hfile
  case isFalse => cases hfile
  case isTrue hsize =>
    obtain ⟨rfl⟩ := hfile
    refine ⟨⟨path, hsize⟩, rfl, rfl, ?_, ?_⟩
    · intro hempty
      rw [hempty] at habsolute
      exact habsolute (by rintro ⟨⟩)
    · simpa using hblank

/-- The path in an announcement is as the reader leaves every path. -/
theorem announce_isPlain (h : Publish.announce version path interval = .ok m) :
  m.IsPlain
  := by
  obtain ⟨file, rfl, rfl, hne, hblank⟩ := announce_eq h
  intro named hnamed
  obtain rfl := Option.some.inj hnamed
  exact ⟨hne, Text.not_mem_of_not_blank hblank rfl, Text.trimmed_of_not_blank hblank⟩

/-- A device reads an announcement as it was published. -/
theorem parse_render (h : Publish.announce version path interval = .ok m) :
  parse (utf8 m.render) = m
  := parse_render_of_isPlain (announce_isPlain h)

/-- Writing metadata and reading them back, exactly: metadata are read as they were written if and
only if the path is trimmed, not empty, and on one line. Whatever is read is so, hence it is read
again when it is written, and so is whatever is announced. -/
theorem parse_render_iff :
  (∀ m : Metadata, parse (utf8 m.render) = m ↔ m.IsPlain)
    ∧ (∀ body : Bytes, (parse body).IsPlain)
    ∧ (∀ body : Bytes, parse (utf8 (parse body).render) = parse body)
    ∧ ∀ (version : UInt32) (path : String) (interval : Option UInt32) (m : Metadata),
      Publish.announce version path interval = .ok m → m.IsPlain
  := ⟨fun _ => parse_render_eq_iff, parse_isPlain,
    fun body => parse_render_of_isPlain (parse_isPlain body), fun _ _ _ _ => announce_isPlain⟩

/-- A path that is announced is plain, and one that ends with a blank is lost. -/
theorem parse_render_iff_sample :
  Publish.announce 3 "/v3.bin" none = .ok ⟨some 3, some ⟨"/v3.bin", by decide⟩, none⟩
    ∧ IsPlain ⟨some 3, some ⟨"/v3.bin", by decide⟩, none⟩
    ∧ parse (utf8 (render ⟨some 3, some ⟨"/v3 ", by decide⟩, none⟩))
      ≠ ⟨some 3, some ⟨"/v3 ", by decide⟩, none⟩
  := by
  refine ⟨rfl, parse_render_iff.2.2.2 3 "/v3.bin" none _ rfl, ?_⟩
  rw [Ne, parse_render_iff.1]
  intro hplain
  cases (hplain _ rfl).trimmed.last ' ' rfl

/-- An announcement is short. -/
theorem length_render_le (h : Publish.announce version path interval = .ok m) :
  (utf8 m.render).length ≤ 301
  := by
  obtain ⟨file, rfl, rfl, -, -⟩ := announce_eq h
  have hversion := size_toString_le version
  have hfile : (toString file.text).utf8ByteSize ≤ 256 := file.size_le
  have hkeys : (toString "VERSION=").utf8ByteSize = 8 ∧ (toString "FILE=").utf8ByteSize = 5
      ∧ (toString "INTERVAL=").utf8ByteSize = 9 ∧ (toString "\n").utf8ByteSize = 1 :=
    ⟨rfl, rfl, rfl, rfl⟩
  have hinterval : (interval.elim "" fun n => s!"INTERVAL={n}\n").utf8ByteSize ≤ 20 := by
    cases interval with
    | none => exact Nat.zero_le 20
    | some n =>
        have hseconds := size_toString_le n
        simp only [Option.elim_some, String.utf8ByteSize_append]
        omega
  rw [Utf8.length_utf8, render]
  dsimp only [Option.elim_some]
  simp only [String.utf8ByteSize_append] at hinterval ⊢
  omega

end Metadata

end FirmwareUpdate
