/-!
# Blank characters

The blank characters are those with the White_Space property of Unicode. Trimming removes
them from the ends of a text, and the words of a text are its maximal runs without them.
-/

namespace FirmwareUpdate.Text

/-- The characters with the White_Space property of Unicode. The zero width space, the byte
order mark and the information separators do not have it. -/
def isBlank (c : Char) : Bool :=
  let n := c.toNat
  (9 ≤ n && n ≤ 13) || n == 0x20 || n == 0x85 || n == 0xA0 || n == 0x1680
    || (0x2000 ≤ n && n ≤ 0x200A) || n == 0x2028 || n == 0x2029 || n == 0x202F
    || n == 0x205F || n == 0x3000

/-- The text without the blanks it starts with. -/
def trimStart (cs : List Char) : List Char :=
  cs.dropWhile isBlank

/-- The text without the blanks it ends with. -/
def trimEnd (cs : List Char) : List Char :=
  (cs.reverse.dropWhile isBlank).reverse

/-- The text without the blanks at its two ends. -/
def trim (cs : List Char) : List Char :=
  trimEnd (trimStart cs)

/-- The maximal runs of characters that are not blank, in order. -/
def words (cs : List Char) : List (List Char) :=
  pieces cs |>.filter (!·.isEmpty)
where
  /-- The text cut at every blank, empty pieces included. -/
  pieces : List Char → List (List Char)
    | [] => [[]]
    | c :: rest =>
      match pieces rest with
      | [] => [[c]]
      | word :: more => if isBlank c then [] :: word :: more else (c :: word) :: more

end FirmwareUpdate.Text
