/-!
# Cutting texts

Texts are cut at single marks, at the first occurrence of a longer mark, into lines, at the
line ends of a message head, and into rows of equal width.
-/

namespace FirmwareUpdate.Text

variable {α : Type _}

/-- What precedes the first `mark` and what follows it, if the text holds one. -/
def splitOnce [BEq α] (mark : α) (text : List α) : Option (List α × List α) :=
  match text.span (· != mark) with
  | (_, []) => none
  | (before, _ :: after) => some (before, after)

/-- What precedes the first occurrence of `mark` and what follows it, if there is one. -/
def splitAtFirst [BEq α] (mark : List α) : List α → Option (List α × List α)
  | [] => if mark.isEmpty then some ([], []) else none
  | a :: rest =>
    match mark.isPrefixOf? (a :: rest) with
    | some after => some ([], after)
    | none => (splitAtFirst mark rest).map fun (before, after) => (a :: before, after)

/-- Whether the text holds an occurrence of `mark`. -/
def holds [BEq α] (mark text : List α) : Bool :=
  (splitAtFirst mark text).isSome

/-- The pieces between the occurrences of `mark`; there is always at least one. -/
def splitOn [BEq α] (mark : α) : List α → List (List α)
  | [] => [[]]
  | a :: rest =>
    if a == mark then [] :: splitOn mark rest
    else
      match splitOn mark rest with
      | [] => [[a]]
      | piece :: more => (a :: piece) :: more

/-- A line without the carriage return it ends with. -/
def dropReturn (line : List Char) : List Char :=
  if line.getLast? == some '\r' then line.dropLast else line

/-- The lines of a text. A line feed, or a carriage return and a line feed, ends a line; what
follows the last of them is a line only when it is not empty, and keeps its carriage
return. -/
def lines (text : List Char) : List (List Char) :=
  let pieces := splitOn '\n' text
  let last := pieces.getLast?.getD []
  pieces.dropLast.map dropReturn ++ if last.isEmpty then [] else [last]

/-- The pieces between the pairs of a carriage return and a line feed. -/
def splitHead : List Char → List (List Char)
  | [] => [[]]
  | '\r' :: '\n' :: rest => [] :: splitHead rest
  | c :: rest =>
    match splitHead rest with
    | [] => [[c]]
    | piece :: more => (c :: piece) :: more

/-- The sequence cut into rows of `width` elements, the last of which may be shorter. -/
def rows (width : Nat) (sequence : List α) : List (List α) :=
  go sequence.length sequence
where
  /-- At most `count` rows of the sequence. -/
  go : Nat → List α → List (List α)
    | _, [] => []
    | 0, _ => []
    | count + 1, sequence => sequence.take width :: go count (sequence.drop width)

end FirmwareUpdate.Text
