import FirmwareUpdate.Text.Decimal

/-!
# Durations

A duration is a number of nanoseconds. It is written in the largest of the units s, ms, µs
and ns in which it is at least one, without zeros at the end of the fraction.
-/

namespace FirmwareUpdate

/-- A span of time. -/
structure Duration where
  nanoseconds : Nat
deriving DecidableEq, Repr, Inhabited

namespace Duration

/-- The duration of `n` milliseconds. -/
def ofMilliseconds (n : Nat) : Duration :=
  ⟨n * 1000000⟩

/-- The duration of `n` seconds. -/
def ofSeconds (n : Nat) : Duration :=
  ⟨n * 1000000000⟩

/-- The whole milliseconds in a duration. -/
def milliseconds (d : Duration) : Nat :=
  d.nanoseconds / 1000000

/-- The whole seconds in a duration. -/
def seconds (d : Duration) : Nat :=
  d.nanoseconds / 1000000000

/-- The text of `n` units of `10 ^ places` parts each: whole units, and the parts as a
fraction without zeros at its end. -/
def inUnits (n places : Nat) : String :=
  let unit := Nat.pow 10 places
  let parts := (Text.padded 10 places (n % unit)).toList
  let fraction := (parts.reverse.dropWhile (· == '0')).reverse
  let whole := toString (n / unit)
  if fraction.isEmpty then whole else whole ++ "." ++ String.ofList fraction

/-- The text of a duration. -/
def text (d : Duration) : String :=
  let n := d.nanoseconds
  if 1000000000 ≤ n then inUnits n 9 ++ "s"
  else if 1000000 ≤ n then inUnits n 6 ++ "ms"
  else if 1000 ≤ n then inUnits n 3 ++ "µs"
  else inUnits n 0 ++ "ns"

end Duration

end FirmwareUpdate
