import FirmwareUpdate.Proofs.Metadata.Lines

/-!
# Metadata as they are written

Metadata are written with one line for each part. They are read back exactly if the path is as the
reader leaves every path, which is trimmed, not empty, and on one line.
-/

namespace FirmwareUpdate

/-- The digits that stand for a number in a text. -/
theorem toList_toString_uint32 (n : UInt32) :
  (toString n).toList = Text.decimal n.toNat
  := Text.toList_repr n.toNat

theorem isBlank_decimal {n : Nat} {c : Char} (h : c ∈ Text.decimal n) :
  Text.isBlank c = false
  := Text.isBlank_of_isDigit (Text.isDigit_decimal h)

namespace Metadata

/-! ### Paths that are read -/

/-- A path that is known from a file is the value in one of its lines. -/
theorem exists_of_file_parse {body : Bytes} {path : ImagePath} (h : path ∈ (parse body).file) :
  ∃ line ∈ Text.splitOn 10 body, ∃ value,
    valueOf? "FILE" (Utf8.decodeLossy line) = some value ∧ path? value = some path
  := by
  rw [parse_eq, gathered_eq] at h
  obtain hlast | ⟨-, ⟨⟩⟩ := Option.getD_eq_iff.mp h
  obtain ⟨line, hline, hentry⟩ := List.mem_filterMap.mp (List.mem_of_getLast? hlast)
  rw [entryOf, (readEntry_parts _).2.1] at hentry
  obtain ⟨value, hvalue, hpath⟩ := Option.bind_eq_some_iff.mp hentry
  refine ⟨line, hline, value, hvalue, ?_⟩
  simpa using hpath

/-- A path as the reader leaves every path: trimmed, not empty, and on one line. -/
structure Plain (path : List Char) : Prop where
  ne_nil : path ≠ []
  not_mem : '\n' ∉ path
  trimmed : Text.Trimmed path

/-- The path in the metadata, if there is one, is as the reader leaves it. -/
def IsPlain (m : Metadata) : Prop :=
  ∀ path ∈ m.file, Plain path.text.toList

/-- The value in a line is a part of it. -/
theorem infix_of_valueOf? {key : String} {line value : List Char}
    (h : valueOf? key line = some value) :
  value <:+: line
  := by
  obtain ⟨⟨found, rest⟩, hcut, hvalue⟩ := Option.bind_eq_some_iff.mp h
  dsimp only at hvalue
  split at hvalue
  case isFalse => cases hvalue
  case isTrue =>
    obtain rfl := Option.some.inj hvalue
    obtain ⟨htrim, -⟩ := Text.splitOnce_eq_some_iff.mp hcut
    have hsuffix : rest <:+ Text.trim line := by
      rw [htrim]
      exact (List.suffix_cons '=' rest).trans (List.suffix_append _ _)
    exact hsuffix.isInfix.trans (Text.trim_infix line)

/-- Every path that is read is plain. -/
theorem parse_isPlain (body : Bytes) :
  (parse body).IsPlain
  := by
  intro path hpath
  obtain ⟨line, hline, value, hvalue, hread⟩ := exists_of_file_parse hpath
  have hpiece : Utf8.decodeLossy line ∈ Text.splitOn '\n' (Utf8.decodeLossy body) := by
    rw [splitOn_decodeLossy]
    exact List.mem_map_of_mem hline
  have hfeed : '\n' ∉ Utf8.decodeLossy line := Text.not_mem_of_mem_splitOn hpiece
  rw [path?] at hread
  split at hread
  case isTrue => cases hread
  case isFalse hne =>
    unfold ImagePath.ofString? at hread
    split at hread
    case isFalse => cases hread
    case isTrue hsize =>
      obtain rfl := Option.some.inj hread
      dsimp only
      rw [String.toList_ofList]
      refine ⟨?_, ?_, Text.trimmed_trim value⟩
      · simpa using hne
      · intro hmem
        exact hfeed ((infix_of_valueOf? hvalue).subset ((Text.trim_infix value).subset hmem))

/-! ### Writing -/

/-- A line with a key and a value. -/
def line (key value : List Char) : List Char :=
  key ++ '=' :: value

/-- The lines that are written for metadata. -/
def lines (m : Metadata) : List (List Char) :=
  m.version.elim [] (fun n => [line "VERSION".toList (Text.decimal n.toNat)])
    ++ m.file.elim [] (fun path => [line "FILE".toList path.text.toList])
    ++ m.interval.elim [] fun n => [line "INTERVAL".toList (Text.decimal n.toNat)]

/-- The text written for a part that is there is a line. -/
theorem toList_part {α : Type} {start : String} {key : List Char} {shown : α → String}
    {text : α → List Char} (hstart : start.toList = key ++ ['='])
    (hshown : ∀ a, (shown a).toList = text a) (part : Option α) :
  (part.elim "" fun a => start ++ shown a ++ "\n").toList
    = (part.elim [] fun a => [line key (text a)]).flatMap (· ++ ['\n'])
  := by
  cases part with
  | none => rfl
  | some a =>
      rw [Option.elim_some, Option.elim_some, String.toList_append, String.toList_append, hstart,
        hshown, List.flatMap_singleton, line, List.append_assoc key]
      rfl

/-- The text of a file is its lines, each with a line feed. -/
theorem toList_render (m : Metadata) :
  m.render.toList = m.lines.flatMap (· ++ ['\n'])
  := by
  have hversion : ("VERSION=").toList = "VERSION".toList ++ ['='] := rfl
  have hfile : ("FILE=").toList = "FILE".toList ++ ['='] := rfl
  have hinterval : ("INTERVAL=").toList = "INTERVAL".toList ++ ['='] := rfl
  rw [lines, List.flatMap_append, List.flatMap_append,
    ← toList_part hversion toList_toString_uint32,
    ← toList_part hfile (fun path : ImagePath => rfl),
    ← toList_part hinterval toList_toString_uint32, ← String.toList_append, ← String.toList_append]
  rfl

section

variable {key value : List Char}

/-- A line is cut where its parts were put together, also if the value has an equality sign. -/
theorem splitOnce_line (hkey : key.any Text.isBlank = false) (hmark : '=' ∉ key)
    (hvalue : ∀ c ∈ value.getLast?, Text.isBlank c = false) :
  Text.splitOnce '=' (Text.trim (line key value)) = some (key, value)
  := by
  have htrimmed : Text.Trimmed (line key value) := by
    constructor
    · intro c hc
      cases key with
      | nil =>
          obtain rfl := Option.some.inj hc
          rfl
      | cons first rest =>
          obtain rfl := Option.some.inj hc
          simpa using List.any_eq_false.mp hkey first List.mem_cons_self
    · intro c hc
      rw [line, List.getLast?_append, List.getLast?_cons] at hc
      cases hlast : value.getLast? with
      | none =>
          rw [hlast] at hc
          obtain rfl := Option.some.inj hc
          rfl
      | some last =>
          rw [hlast] at hc
          obtain rfl := Option.some.inj hc
          exact hvalue last hlast
  rw [htrimmed.trim_eq]
  apply Text.splitOnce_append hmark

theorem number_decimal (n : UInt32) :
  number (Text.decimal n.toNat) = some n
  := by
  have hread : Text.readLeadingBelow? (2 ^ 32) (Text.decimal n.toNat ++ []) = some n.toNat :=
    Text.readLeadingBelow?_decimal n.toNat_lt fun _ => by rintro ⟨⟩
  have htrim : Text.trimStart (Text.decimal n.toNat) = Text.decimal n.toNat :=
    Text.trimStart_of_head fun _ hc => isBlank_decimal (List.mem_of_head? hc)
  rw [List.append_nil] at hread
  rw [number, htrim]
  change Option.map _ (Text.readLeadingBelow? (2 ^ 32) _) = _
  rw [hread, Option.map_some, UInt32.ofNat_toNat]

theorem last_decimal (n : Nat) :
  ∀ c ∈ (Text.decimal n).getLast?, Text.isBlank c = false
  := fun _ hc => isBlank_decimal (List.mem_of_getLast? hc)

theorem readEntry_version (n : UInt32) :
  readEntry (line "VERSION".toList (Text.decimal n.toNat)) = .version (some n)
  := by
  rw [readEntry, splitOnce_line (by decide) (by decide) (last_decimal _)]
  change Entry.version _ = _
  rw [number_decimal]

theorem readEntry_interval (n : UInt32) :
  readEntry (line "INTERVAL".toList (Text.decimal n.toNat)) = .interval (some n)
  := by
  rw [readEntry, splitOnce_line (by decide) (by decide) (last_decimal _)]
  change Entry.interval _ = _
  rw [number_decimal]

theorem readEntry_file {path : ImagePath} (h : Plain path.text.toList) :
  readEntry (line "FILE".toList path.text.toList) = .file path
  := by
  rw [readEntry, splitOnce_line (by decide) (by decide) h.trimmed.last]
  change (if (Text.trim path.text.toList).isEmpty = true then Entry.nothing else _) = _
  rw [h.trimmed.trim_eq, if_neg (by simpa using h.ne_nil), String.ofList_toList,
    ImagePath.ofString?, dif_pos path.size_le]

end

/-- A part that is written as a line is read as an entry. -/
theorem map_readEntry_part {α : Type} {written : α → List Char} {entry : α → Entry}
    {part : Option α} (h : ∀ a ∈ part, readEntry (written a) = entry a) :
  (part.elim [] fun a => [written a]).map readEntry = part.elim [] fun a => [entry a]
  := by
  cases part with
  | none => rfl
  | some a => rw [Option.elim_some, Option.elim_some, List.map_singleton, h a rfl]

/-- What is written is on one line for each part. -/
theorem not_mem_lines {m : Metadata} (h : m.IsPlain) :
  ∀ written ∈ m.lines, '\n' ∉ written
  := by
  have hline : ∀ {key value : List Char}, '\n' ∉ key → '\n' ∉ value → '\n' ∉ line key value := by
    intro key value hkey hvalue
    rw [line, List.mem_append, List.mem_cons, not_or, not_or]
    exact ⟨hkey, by decide, hvalue⟩
  have hdecimal : ∀ n : Nat, '\n' ∉ Text.decimal n := by
    intro n hmem
    cases isBlank_decimal hmem
  obtain ⟨version, file, interval⟩ := m
  intro written hwritten
  simp only [lines, List.mem_append] at hwritten
  obtain (hversion | hfile) | hinterval := hwritten
  · cases version with
    | none => cases hversion
    | some n =>
        obtain rfl := List.mem_singleton.mp hversion
        exact hline (by decide) (hdecimal _)
  · cases file with
    | none => cases hfile
    | some path =>
        obtain rfl := List.mem_singleton.mp hfile
        exact hline (by decide) (h path rfl).not_mem
  · cases interval with
    | none => cases hinterval
    | some n =>
        obtain rfl := List.mem_singleton.mp hinterval
        exact hline (by decide) (hdecimal _)

/-- Metadata with a plain path are read as they were written. -/
theorem parse_render_of_isPlain {m : Metadata} (h : m.IsPlain) :
  parse (utf8 m.render) = m
  := by
  have hread : parse (utf8 m.render) = (m.lines.map readEntry).foldl record {} := by
    rw [parse, entries, foldl_lines, Utf8.decodeLossy_utf8, toList_render,
      Text.splitOn_flatMap (not_mem_lines h), List.map_append, List.foldl_append]
    rfl
  have hentries : m.lines.map readEntry
      = m.version.elim [] (fun n => [.version (some n)])
        ++ m.file.elim [] (fun path => [.file path])
        ++ m.interval.elim [] fun n => [.interval (some n)] := by
    rw [lines, List.map_append, List.map_append, map_readEntry_part fun n _ => readEntry_version n,
      map_readEntry_part fun path hpath => readEntry_file (h path hpath),
      map_readEntry_part fun n _ => readEntry_interval n]
  rw [hread, hentries]
  obtain ⟨version, file, interval⟩ := m
  cases version <;> cases file <;> cases interval <;> rfl

/-- Exactly the metadata with a plain path are read as they were written. -/
theorem parse_render_eq_iff {m : Metadata} :
  parse (utf8 m.render) = m ↔ m.IsPlain
  := by
  constructor
  · intro h
    rw [← h]
    apply parse_isPlain
  · exact parse_render_of_isPlain

end Metadata

end FirmwareUpdate
