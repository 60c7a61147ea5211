import FirmwareUpdate.Record.Reader
import FirmwareUpdate.Text.Shortest

/-!
# Numbers

A number without a fraction and an exponent that fits into 64 bits is an integer; every other
number is a binary fraction. Digits that do not fit into the 64 bits of the significand are
replaced by zeros.
-/

namespace FirmwareUpdate.Record

/-- A number in a text. -/
inductive Number
  | integer (value : Int)
  | fraction (value : Float)

namespace Number

/-- The number that the leading digits denote as long as it is below `bound`, starting from
`n`, and how many of the digits it takes. -/
def absorb (bound n : Nat) : List Nat → Nat × Nat
  | [] => (n, 0)
  | d :: rest =>
    if 10 * n + d < bound then
      let (m, count) := absorb bound (10 * n + d) rest
      (m, count + 1)
    else (n, 0)

/-- The largest power of ten that a scaling step uses. -/
def maxPower : Nat := 308

/-- A power of ten. -/
def power (n : Nat) : Float :=
  Float.ofScientific 1 false n

/-- The value times a power of ten, unless it is too large. -/
def scaled (value : Float) (exponent : Int) : Option Float :=
  if exponent.natAbs ≤ maxPower then
    if 0 ≤ exponent then
      let product := value * power exponent.toNat
      if product.isInf then none else some product
    else some (value / power exponent.natAbs)
  else if value == 0 then some value
  else if 0 ≤ exponent then none
  else scaled (value / power maxPower) (exponent + maxPower)
termination_by exponent.natAbs
decreasing_by simp only [maxPower] at *; omega

/-- The fraction with the given sign, significand and exponent. -/
def ofParts (positive : Bool) (significand : Nat) (exponent : Int) : Reader Number := do
  match scaled significand.toUInt64.toFloat exponent with
  | none => .fail .numberTooLarge
  | some value => return fraction (if positive then value else -value)

/-- The number with a significand whose exponent part comes next. -/
def readExponent (positive : Bool) (significand : Nat) (exponent : Int) : Reader Number := do
  Reader.drop
  let negative := (← Reader.peek) == some 45
  if negative || (← Reader.peek) == some 43 then Reader.drop
  match ← Reader.peek with
  | none => .fail .endInValue
  | some b =>
    if !Reader.digits.isDigit b then
      Reader.drop
      .fail .malformedNumber
    else
      let run ← Reader.digits
      let (size, count) := absorb (Nat.pow 2 31) 0 run
      if count = run.length then
        ofParts positive significand (if negative then exponent - size else exponent + size)
      else if significand ≠ 0 && !negative then
        throw ⟨.numberTooLarge, some ((← get).length + (run.length - count - 1))⟩
      else return fraction (if positive then 0 else -0.0)

/-- The number with a significand whose fraction part comes next. -/
def readFraction (positive : Bool) (significand : Nat) (exponent : Int) : Reader Number := do
  Reader.drop
  let run ← Reader.digits
  if run.isEmpty then
    if (← Reader.peek).isSome then .failAhead .malformedNumber
    else .failAhead .endInValue
  else
    let (significand, count) := absorb UInt64.size significand run
    let exponent := exponent - count
    match ← Reader.peek with
    | some 101 | some 69 => readExponent positive significand exponent
    | _ => ofParts positive significand exponent

/-- The number whose digits in front of any fraction and exponent are given. -/
def ofDigits (positive : Bool) (run : List Nat) : Reader Number := do
  let (significand, count) := absorb UInt64.size 0 run
  let dropped := run.length - count
  match ← Reader.peek with
  | some 46 => readFraction positive significand dropped
  | some 101 | some 69 => readExponent positive significand dropped
  | _ =>
    if dropped ≠ 0 then ofParts positive significand dropped
    else if positive then return integer significand
    else if significand = 0 then return fraction (-0.0)
    else if significand ≤ Nat.pow 2 63 then return integer (-significand)
    else ofParts false significand 0

/-- The number that comes next, after its sign. -/
def read (positive : Bool) : Reader Number := do
  match ← Reader.peek with
  | none => .fail .endInValue
  | some 48 =>
    Reader.drop
    if (← Reader.peek).any Reader.digits.isDigit then .failAhead .malformedNumber
    else ofDigits positive [0]
  | some b =>
    if Reader.digits.isDigit b then ofDigits positive (← Reader.digits)
    else
      Reader.drop
      .fail .malformedNumber

/-- Skips a number, after its sign. -/
def skip : Reader Unit := do
  match ← Reader.next with
  | some 48 =>
    if (← Reader.peek).any Reader.digits.isDigit then .failAhead .malformedNumber
  | b =>
    if b.any Reader.digits.isDigit then discard Reader.digits else .fail .malformedNumber
  match ← Reader.peek with
  | some 46 =>
    Reader.drop
    if (← Reader.digits).isEmpty then .failAhead .malformedNumber
    match ← Reader.peek with
    | some 101 | some 69 => skipExponent
    | _ => return ()
  | some 101 | some 69 => skipExponent
  | _ => return ()
where
  /-- Skips the exponent part that comes next. -/
  skipExponent : Reader Unit := do
    Reader.drop
    if (← Reader.peek) == some 45 || (← Reader.peek) == some 43 then Reader.drop
    if (← Reader.next).any Reader.digits.isDigit then discard Reader.digits
    else .fail .malformedNumber

/-- The digits with a point, where positional notation is used up to sixteen places in front
of the point and four zeros after it. -/
def fractionText (value : Float) : String :=
  let bits := value.toBits.toNat
  let sign := if Nat.pow 2 63 ≤ bits then "-" else ""
  sign ++ match Text.Binary.ofBits? bits with
  | none => "0.0"
  | some x =>
    let (c, k) := x.shortest
    let digits := Text.decimal c
    let point : Int := digits.length + k
    let zeros (n : Int) := List.replicate n.toNat '0'
    if 0 ≤ k && point ≤ 16 then String.ofList (digits ++ zeros k) ++ ".0"
    else if 0 < point && point ≤ 16 then
      String.ofList (digits.take point.toNat) ++ "." ++ String.ofList (digits.drop point.toNat)
    else if -5 < point && point ≤ 0 then "0." ++ String.ofList (zeros (-point) ++ digits)
    else
      let head := String.ofList (digits.take 1)
      let tail := String.ofList (digits.drop 1)
      let mantissa := if tail.isEmpty then head else head ++ "." ++ tail
      s!"{mantissa}e{point - 1}"

/-- How a number is named where something else is wanted. -/
def found : Number → Found
  | integer value => .integer value
  | fraction value => .fraction (fractionText value)

end Number

end FirmwareUpdate.Record
