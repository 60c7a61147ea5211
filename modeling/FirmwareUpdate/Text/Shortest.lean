import FirmwareUpdate.Text.Decimal

/-!
# The fewest digits that read back

A binary number of limited precision stands for every real number that rounds to it. Its
shortest decimal form is the one with the fewest digits among those; of several the nearest
one is taken, and of two equally near ones the even one. It is found on one decimal grid after
the other, where only the two neighbours of the number on the grid have to be tried.
-/

namespace FirmwareUpdate.Text

/-- The number `mantissa * 2 ^ exponent` with the distances to the ends of the reals that
round to it, in quarters of `2 ^ exponent`. The ends belong to it if the mantissa is even. -/
structure Binary where
  mantissa : Nat
  exponent : Int
  below : Nat
  above : Nat
deriving DecidableEq, Repr

namespace Binary

/-- The number in the given bits of a double, without its sign, unless it is zero or not
finite. -/
def ofBits? (bits : Nat) : Option Binary :=
  let fraction := bits % (1 <<< 52)
  let biased : Nat := (bits >>> 52) % (1 <<< 11)
  if biased = 2047 then none
  else if biased = 0 then
    if fraction = 0 then none else some ⟨fraction, -1074, 2, 2⟩
  else
    let below := if fraction = 0 && biased ≠ 1 then 1 else 2
    some ⟨fraction + (1 <<< 52), (biased : Int) - 1075, below, 2⟩

/-- The fraction whose value, times four times the mantissa, is the number over `10 ^ k`. -/
def scale (x : Binary) (k : Int) : Nat × Nat :=
  (Nat.pow 2 x.exponent.toNat * Nat.pow 10 (-k).toNat,
    4 * Nat.pow 2 (-x.exponent).toNat * Nat.pow 10 k.toNat)

/-- Whether `c * 10 ^ k` rounds to the number. -/
def stands (x : Binary) (k : Int) (c : Nat) : Bool :=
  let (p, q) := x.scale k
  let low := (4 * x.mantissa - x.below) * p
  let high := (4 * x.mantissa + x.above) * p
  if x.mantissa % 2 = 0 then low ≤ c * q && c * q ≤ high else low < c * q && c * q < high

/-- The neighbour of the number on the grid of the multiples of `10 ^ k` that rounds to it. -/
def onGrid? (x : Binary) (k : Int) : Option Nat :=
  let (p, q) := x.scale k
  let value := 4 * x.mantissa * p
  let c := value / q
  let rest := value % q
  match x.stands k c && c ≠ 0, x.stands k (c + 1) with
  | false, false => none
  | true, false => some c
  | false, true => some (c + 1)
  | true, true =>
    if 2 * rest < q then some c
    else if q < 2 * rest then some (c + 1)
    else some (if c % 2 = 0 then c else c + 1)

/-- The place of the leading digit: the largest `e` with `10 ^ e` not above the number. -/
def leading (x : Binary) : Int :=
  let (p, q) := x.scale 0
  let value := 4 * x.mantissa * p
  let guess : Int := (decimal value).length - (decimal q).length
  let (a, b) := x.scale guess
  if b ≤ 4 * x.mantissa * a then guess else guess - 1

/-- The digits of the shortest form, as a number, and the place of the last of them. The
neighbour on the coarsest grid may be the next power of ten, whose zero is left out. -/
def shortest (x : Binary) : Nat × Int :=
  let (c, k) := go 17 x.leading
  if c = 10 then (1, k + 1) else (c, k)
where
  /-- The form on the first of `count` grids, the coarsest at `10 ^ k`, that has one. -/
  go : Nat → Int → Nat × Int
    | 0, k => ((x.onGrid? k).getD x.mantissa, k)
    | count + 1, k =>
      match x.onGrid? k with
      | some c => (c, k)
      | none => go count (k - 1)

end Binary

end FirmwareUpdate.Text
