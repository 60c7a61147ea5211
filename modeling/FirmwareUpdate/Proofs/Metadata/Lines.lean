import FirmwareUpdate.Metadata
import FirmwareUpdate.Proofs.Text.Ascii
import FirmwareUpdate.Proofs.Text.Decimal

/-!
# Metadata line by line

A metadata file is read one byte line at a time: what ends a line leaves no trace in it, since lines
are trimmed, and bytes that are no text stay within their line. Of the entries with one key the last
one counts, so that the order of lines with different keys does not matter, and lines without a
known key do not matter at all.

The main statement is `parse_joined`.
-/

namespace FirmwareUpdate.Metadata

/-! ### What a line says -/

/-- The keys of the lines that say something. -/
def keywords : List String := ["VERSION", "FILE", "INTERVAL"]

/-- The value in a line with the given key. -/
def valueOf? (key : String) (line : List Char) : Option (List Char) :=
  (Text.splitOnce '=' (Text.trim line)).bind fun (found, value) =>
    if String.ofList (Text.trim found) = key then some value else none

/-- The path that a value stands for, unless it is empty or too long. -/
def path? (value : List Char) : Option ImagePath :=
  if (Text.trim value).isEmpty then none
  else ImagePath.ofString? (String.ofList (Text.trim value))

/-- What an entry sets the version to, if it does. -/
def Entry.version? : Entry → Option (Option UInt32)
  | .version number => some number
  | _ => none

/-- What an entry sets the path to, if it does. -/
def Entry.file? : Entry → Option (Option ImagePath)
  | .file path => some (some path)
  | _ => none

/-- What an entry sets the interval to, if it does. -/
def Entry.interval? : Entry → Option (Option UInt32)
  | .interval seconds => some seconds
  | _ => none

/-- A line says only what its key is for. -/
theorem readEntry_parts (line : List Char) :
  (readEntry line).version? = (valueOf? "VERSION" line).map number
    ∧ (readEntry line).file? = (valueOf? "FILE" line).bind (fun value => (path? value).map some)
    ∧ (readEntry line).interval? = (valueOf? "INTERVAL" line).map number
  := by
  unfold readEntry valueOf?
  cases Text.splitOnce '=' (Text.trim line) with
  | none => exact ⟨rfl, rfl, rfl⟩
  | some cut =>
  obtain ⟨key, value⟩ := cut
  dsimp only [Option.bind_some]
  split
  case h_1 hkey => simp [hkey, Entry.version?, Entry.file?, Entry.interval?]
  case h_2 hkey => simp [hkey, Entry.version?, Entry.file?, Entry.interval?]
  case h_3 hkey =>
    simp only [hkey, path?]
    split
    case isTrue hempty =>
      rw [List.isEmpty_iff] at hempty
      simp [hempty, Entry.version?, Entry.file?, Entry.interval?]
    case isFalse hempty =>
      rw [List.isEmpty_iff] at hempty
      split
      case h_1 path hpath => simp [hempty, hpath, Entry.version?, Entry.file?, Entry.interval?]
      case h_2 hpath => simp [hempty, hpath, Entry.version?, Entry.file?, Entry.interval?]
  case h_4 hversion hinterval hfile =>
    rw [if_neg hversion, if_neg hinterval, if_neg hfile]
    exact ⟨rfl, rfl, rfl⟩

/-- Blanks at the ends of a line do not matter. -/
theorem readEntry_congr {line line' : List Char} (h : Text.trim line = Text.trim line') :
  readEntry line = readEntry line'
  := by
  rw [readEntry, readEntry, h]

/-! ### What the lines of a file say -/

/-- What a byte line says. -/
def entryOf (line : Bytes) : Entry :=
  readEntry (Utf8.decodeLossy line)

/-- The metadata that byte lines say one after the other. -/
def gathered (lines : List Bytes) : Metadata :=
  (lines.map entryOf).foldl record {}

/-- What the byte lines that set a part of the metadata set it to, one after the other. -/
def said {α : Type} (part : Entry → Option (Option α)) (lines : List Bytes) : List (Option α) :=
  lines.filterMap fun line => part (entryOf line)

/-- What the last of the byte lines that set a part of the metadata sets it to. -/
def lastOf {α : Type} (part : Entry → Option (Option α)) (lines : List Bytes) : Option α :=
  (said part lines).getLast?.getD none

/-- A carriage return at the end of a line does not matter, and nothing is said after the last line
feed. -/
theorem foldl_lines (text : List Char) (m : Metadata) :
  ((Text.lines text).map readEntry).foldl record m
    = ((Text.splitOn '\n' text).map readEntry).foldl record m
  := by
  have hdrop : ∀ lines : List (List Char),
      (lines.map Text.dropReturn).map readEntry = lines.map readEntry := by
    intro lines
    rw [List.map_map]
    apply List.map_congr_left
    intro line _
    exact readEntry_congr (Text.trim_dropReturn line)
  obtain ⟨first, last, hlast⟩ : ∃ first last, Text.splitOn '\n' text = first ++ [last] :=
    ⟨_, _, (List.dropLast_concat_getLast (Text.splitOn_ne_nil _ _)).symm⟩
  have hlines : Text.lines text
      = first.map Text.dropReturn ++ if last.isEmpty then [] else [last] := by
    rw [Text.lines, hlast, List.dropLast_concat, List.getLast?_concat, Option.getD_some]
  rw [hlines, hlast, List.map_append, List.map_append, List.foldl_append, List.foldl_append, hdrop]
  split
  case isTrue hempty =>
    rw [List.map_singleton, List.isEmpty_iff.mp hempty]
    rfl
  case isFalse => rfl

/-- The text of a file is cut where its bytes are. -/
theorem splitOn_decodeLossy (body : Bytes) :
  Text.splitOn '\n' (Utf8.decodeLossy body) = (Text.splitOn 10 body).map Utf8.decodeLossy
  := Utf8.splitOn_decodeLossy (b := 10) (by decide) (by decide) body

/-- A file is read line by line. -/
theorem parse_eq (body : Bytes) :
  parse body = gathered (Text.splitOn 10 body)
  := by
  rw [parse, entries, foldl_lines, splitOn_decodeLossy, List.map_map]
  rfl

/-- Each part of the metadata is what the last line for it says. -/
theorem gathered_eq (lines : List Bytes) :
  gathered lines
    = ⟨lastOf Entry.version? lines, lastOf Entry.file? lines, lastOf Entry.interval? lines⟩
  := by
  have hrecord : ∀ m : Metadata, (lines.map entryOf).foldl record m
      = ⟨(said Entry.version? lines).getLast?.getD m.version,
        (said Entry.file? lines).getLast?.getD m.file,
        (said Entry.interval? lines).getLast?.getD m.interval⟩ := by
    induction lines with
    | nil => exact fun _ => rfl
    | cons line lines ih =>
        intro m
        rw [List.map_cons, List.foldl_cons, ih]
        cases hentry : entryOf line with
        | _ =>
            simp only [said, List.filterMap_cons, hentry, Entry.version?, Entry.file?,
              Entry.interval?, record, List.getLast?_cons, Option.getD_some]
  exact hrecord {}

/-! ### Numbers -/

/-- The number that a value denotes: that of all the digits it starts with after its blanks. -/
def Denotes (value : List Char) (n : Nat) : Prop :=
  ∃ digits rest, Text.trimStart value = digits ++ rest ∧ digits ≠ []
    ∧ (∀ c ∈ digits, c.isDigit = true) ∧ (∀ c ∈ rest.head?, c.isDigit = false)
    ∧ Nat.ofDigitChars 10 digits 0 = n

theorem number_eq_some_iff {value : List Char} {n : UInt32} :
  number value = some n ↔ Denotes value n.toNat
  := by
  rw [number, Option.map_eq_some_iff]
  constructor
  · rintro ⟨m, hm, rfl⟩
    obtain ⟨digits, rest, htext, hne, hdigits, hrest, hvalue, hlt⟩ :=
      Text.readLeadingBelow?_eq_some_iff.mp hm
    refine ⟨digits, rest, htext, hne, hdigits, hrest, ?_⟩
    rw [hvalue, UInt32.toNat_ofNat_of_lt' hlt]
  · rintro ⟨digits, rest, htext, hne, hdigits, hrest, hvalue⟩
    refine ⟨n.toNat, ?_, UInt32.ofNat_toNat⟩
    exact Text.readLeadingBelow?_eq_some_iff.mpr
      ⟨digits, rest, htext, hne, hdigits, hrest, hvalue, n.toNat_lt⟩

/-! ### Lines put together -/

/-- The ways to put lines together: each line ends with a line feed, or with a carriage return and a
line feed, except that nothing need follow the last one. -/
inductive Joins : List Bytes → Bytes → Prop
  | nil : Joins [] []
  | last (line : Bytes) : Joins [line] line
  | feed {lines : List Bytes} {body : Bytes} (line : Bytes) :
    Joins lines body → Joins (line :: lines) (line ++ 10 :: body)
  | returned {lines : List Bytes} {body : Bytes} (line : Bytes) :
    Joins lines body → Joins (line :: lines) (line ++ 13 :: 10 :: body)

theorem entryOf_returned (line : Bytes) :
  entryOf (line ++ [13]) = entryOf line
  := by
  apply readEntry_congr
  rw [Utf8.decodeLossy_append_ascii (by decide)]
  apply Text.trim_append_blanks
  intro c hc
  rw [List.mem_singleton.mp hc]
  rfl

/-- Lines are read one after the other however they were put together. -/
theorem Joins.parse_eq {lines : List Bytes} {body : Bytes} (h : Joins lines body)
    (hlines : ∀ line ∈ lines, 10 ∉ line) :
  parse body = gathered lines
  := by
  have hread : ∀ m : Metadata, ((Text.splitOn 10 body).map entryOf).foldl record m
      = (lines.map entryOf).foldl record m := by
    induction h with
    | nil => exact fun _ => rfl
    | last line =>
        rw [Text.splitOn_of_not_mem (hlines line List.mem_cons_self)]
        exact fun _ => rfl
    | feed line h ih =>
        intro m
        rw [Text.splitOn_append (hlines line List.mem_cons_self), List.map_cons, List.foldl_cons,
          ih fun other hother => hlines other (List.mem_cons_of_mem line hother)]
        rfl
    | @returned lines body line h ih =>
        intro m
        have hreturned : 10 ∉ line ++ [13] := by
          simpa using hlines line List.mem_cons_self
        have hsplit : Text.splitOn 10 (line ++ 13 :: 10 :: body)
            = (line ++ [13]) :: Text.splitOn 10 body := by
          rw [← Text.splitOn_append hreturned, List.append_assoc, List.singleton_append]
        rw [hsplit, List.map_cons, List.foldl_cons, entryOf_returned,
          ih fun other hother => hlines other (List.mem_cons_of_mem line hother)]
        rfl
  exact (Metadata.parse_eq body).trans (hread {})

/-- Whether the line has the given key. -/
def hasKey (key : String) (line : Bytes) : Bool :=
  (valueOf? key (Utf8.decodeLossy line)).isSome

/-- Whether the line has one of the keys that say something. -/
def isKeyed (line : Bytes) : Bool :=
  keywords.any (hasKey · line)

section

variable {α : Type} {part : Entry → Option (Option α)} {key : String} {lines lines' : List Bytes}

/-- If only the lines with one key say a part of the metadata, and at most one line has that key,
the part is said at most once. -/
theorem length_said_le
    (hpart : ∀ line, (part (entryOf line)).isSome = true → hasKey key line = true)
    (hone : lines.countP (hasKey key) ≤ 1) :
  (said part lines).length ≤ 1
  := by
  rw [said, List.length_filterMap_eq_countP]
  exact (List.countP_mono_left fun line _ => hpart line).trans hone

/-- Lines without a known key do not matter, and neither does the order of the lines if the part is
said at most once. -/
theorem lastOf_congr (hkey : key ∈ keywords)
    (hpart : ∀ line, (part (entryOf line)).isSome = true → hasKey key line = true)
    (hone : lines.countP (hasKey key) ≤ 1)
    (hlines : (lines.filter isKeyed).Perm (lines'.filter isKeyed)) :
  lastOf part lines = lastOf part lines'
  := by
  have hkeyed : ∀ lines : List Bytes, said part lines = said part (lines.filter isKeyed) := by
    intro lines
    rw [said, said, List.filterMap_filter]
    congr 1
    funext line
    split
    case isTrue => rfl
    case isFalse hnot =>
      by_contra hsome
      apply hnot
      exact List.any_eq_true.mpr ⟨key, hkey, hpart line (Option.isSome_iff_ne_none.mpr hsome)⟩
  have hperm : (said part lines).Perm (said part lines') := by
    rw [hkeyed lines, hkeyed lines']
    exact hlines.filterMap _
  have hlength := length_said_le hpart hone
  rw [lastOf, lastOf]
  cases hsaid : said part lines with
  | nil =>
      rw [hsaid] at hperm
      rw [List.nil_perm.mp hperm]
  | cons first more =>
      rw [hsaid] at hperm hlength
      obtain rfl := List.eq_nil_of_length_eq_zero (Nat.le_zero.mp (Nat.le_of_succ_le_succ hlength))
      rw [List.singleton_perm.mp hperm]

/-- A number that is said at most once is the one in the line that says it. -/
theorem lastOf_eq_some_iff {part : Entry → Option (Option UInt32)}
    (hpart : ∀ line, part (readEntry line) = (valueOf? key line).map number)
    (hone : (said part lines).length ≤ 1) {n : UInt32} :
  lastOf part lines = some n
    ↔ ∃ line ∈ lines, ∃ value, valueOf? key (Utf8.decodeLossy line) = some value
      ∧ Denotes value n.toNat
  := by
  have hlast : lastOf part lines = some n ↔ some n ∈ said part lines := by
    rw [lastOf]
    cases hsaid : said part lines with
    | nil => simp
    | cons first more =>
        rw [hsaid] at hone
        obtain rfl := List.eq_nil_of_length_eq_zero (Nat.le_zero.mp (Nat.le_of_succ_le_succ hone))
        rw [List.mem_singleton, List.getLast?_singleton, Option.getD_some, eq_comm]
  rw [hlast, said, List.mem_filterMap]
  simp only [entryOf, hpart, Option.map_eq_some_iff, number_eq_some_iff]

end

/-- Line order and noise do not matter. Let each key be the key of at most one line. Then a file
with these lines says the same as a file with the keyed lines among them in any order and any other
lines between them, whichever way the lines of either file end; and a number is known exactly if the
value in its line starts with the digits of one below 2³². -/
theorem parse_joined {lines lines' : List Bytes} {body body' : Bytes}
    (hone : ∀ key ∈ keywords, lines.countP (hasKey key) ≤ 1)
    (hperm : (lines.filter isKeyed).Perm (lines'.filter isKeyed))
    (hlines : ∀ line ∈ lines, 10 ∉ line) (hlines' : ∀ line ∈ lines', 10 ∉ line)
    (hbody : Joins lines body) (hbody' : Joins lines' body') :
  parse body = parse body'
    ∧ ∀ n : UInt32,
      ((parse body).version = some n
        ↔ ∃ line ∈ lines, ∃ value,
          valueOf? "VERSION" (Utf8.decodeLossy line) = some value ∧ Denotes value n.toNat)
      ∧ ((parse body).interval = some n
        ↔ ∃ line ∈ lines, ∃ value,
          valueOf? "INTERVAL" (Utf8.decodeLossy line) = some value ∧ Denotes value n.toNat)
  := by
  have hversion : ∀ line, (entryOf line).version?.isSome = true → hasKey "VERSION" line = true := by
    intro line h
    rwa [entryOf, (readEntry_parts _).1, Option.isSome_map] at h
  have hfile : ∀ line, (entryOf line).file?.isSome = true → hasKey "FILE" line = true := by
    intro line h
    rw [entryOf, (readEntry_parts _).2.1] at h
    exact Option.isSome_of_isSome_bind h
  have hinterval : ∀ line,
      (entryOf line).interval?.isSome = true → hasKey "INTERVAL" line = true := by
    intro line h
    rwa [entryOf, (readEntry_parts _).2.2, Option.isSome_map] at h
  have hversionOne := hone "VERSION" (by decide)
  have hfileOne := hone "FILE" (by decide)
  have hintervalOne := hone "INTERVAL" (by decide)
  rw [hbody.parse_eq hlines, hbody'.parse_eq hlines', gathered_eq, gathered_eq]
  constructor
  · rw [lastOf_congr (by decide) hversion hversionOne hperm,
      lastOf_congr (by decide) hfile hfileOne hperm,
      lastOf_congr (by decide) hinterval hintervalOne hperm]
  · intro n
    exact ⟨lastOf_eq_some_iff (fun line => (readEntry_parts line).1)
        (length_said_le hversion hversionOne),
      lastOf_eq_some_iff (fun line => (readEntry_parts line).2.2)
        (length_said_le hinterval hintervalOne)⟩

/-- Lines between which bytes stand that are no text. -/
def sampleLines : List Bytes :=
  [utf8 "VERSION=17 (beta)", [0xff, 0xe2], utf8 "FILE=/a.bin"]

/-- The same keys in another order, with a comment. -/
def sampleReordered : List Bytes :=
  [utf8 "FILE=/a.bin", utf8 "# latest", utf8 "VERSION=17 (beta)"]

theorem parse_joined_sample :
  let body := utf8 "VERSION=17 (beta)\r\n" ++ [0xff, 0xe2, 10] ++ utf8 "FILE=/a.bin"
  let body' := utf8 "FILE=/a.bin\n# latest\r\nVERSION=17 (beta)\n"
  parse body = parse body' ∧ (parse body).version = some 17
  := by
  have hjoins : Joins sampleLines
      (utf8 "VERSION=17 (beta)\r\n" ++ [0xff, 0xe2, 10] ++ utf8 "FILE=/a.bin") :=
    .returned (utf8 "VERSION=17 (beta)") (.feed [0xff, 0xe2] (.last (utf8 "FILE=/a.bin")))
  have hjoins' : Joins sampleReordered (utf8 "FILE=/a.bin\n# latest\r\nVERSION=17 (beta)\n") :=
    .feed (utf8 "FILE=/a.bin") (.returned (utf8 "# latest") (.feed (utf8 "VERSION=17 (beta)") .nil))
  have hread := parse_joined (by decide) (by decide) (by decide) (by decide) hjoins hjoins'
  refine ⟨hread.1, (hread.2 17).1.mpr
    ⟨utf8 "VERSION=17 (beta)", by decide, "17 (beta)".toList, by decide, ?_⟩⟩
  exact ⟨['1', '7'], " (beta)".toList, by decide, by decide, by simp, by simp, by decide⟩

end FirmwareUpdate.Metadata
