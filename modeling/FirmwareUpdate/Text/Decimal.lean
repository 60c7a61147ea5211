/-!
# Decimal numbers

Numbers are written without leading zeros. Reading accepts ASCII digits only, any number of
leading zeros, and refuses a number that is not below the given bound.
-/

namespace FirmwareUpdate.Text

/-- The value of an ASCII digit. -/
def digit? (c : Char) : Option Nat :=
  if c.isDigit then some (c.toNat - '0'.toNat) else none

/-- The number a non-empty run of ASCII digits denotes. -/
def readDigits? : List Char → Option Nat
  | [] => none
  | c :: rest => (c :: rest).foldlM (fun n d => (digit? d).map (10 * n + ·)) 0

/-- The number below `bound` a text denotes, where one leading plus sign is allowed. -/
def readBelow? (bound : Nat) (text : List Char) : Option Nat := do
  let digits := match text with
    | '+' :: rest => rest
    | _ => text
  let n ← readDigits? digits
  if n < bound then some n else none

/-- The number below `bound` that the leading digits of a text denote, after any blanks the
caller has removed. A sign is not a digit. -/
def readLeadingBelow? (bound : Nat) (text : List Char) : Option Nat := do
  let n ← readDigits? (text.takeWhile Char.isDigit)
  if n < bound then some n else none

/-- The decimal digits of a number. -/
def decimal (n : Nat) : List Char :=
  Nat.toDigits 10 n

/-- The digits of a number in the given base, with zeros in front up to the given width. -/
def padded (base width n : Nat) : String :=
  let digits := Nat.toDigits base n
  String.ofList (List.replicate (width - digits.length) '0' ++ digits)

/-- A text with blanks in front up to the given width. -/
def rightAligned (width : Nat) (text : String) : String :=
  String.ofList (List.replicate (width - text.length) ' ') ++ text

end FirmwareUpdate.Text
