/-
# The shortest digits of a double

Among the decimals that round to a double, `shortest` takes one with the fewest digits, of those
the nearest, and of two as near the greater.  For one, two, … seventeen digits it tests the two
neighbours of the value on that decimal grid; the first grid with a hit wins.  `positional` writes
the digits with a point and without an exponent.
-/
import CatalogLint.Number.Double

namespace CatalogLint.Double

/-- The decimals that round to a double, in quarters of its last bit: the bounds and whether they
belong to it. -/
structure Interval where
  /-- Lower bound. -/
  low : Nat
  /-- The value itself. -/
  value : Nat
  /-- Upper bound. -/
  high : Nat
  /-- Whether the bounds round to the double too. -/
  closed : Bool

/-- The interval that rounds to `mantissa · 2 ^ exponent`; below a power of two the doubles lie
twice as close. -/
def interval (mantissa : Nat) (exponent : Int) : Interval where
  low := 4 * mantissa - (if mantissa = leastMantissa ∧ leastExponent < exponent then 1 else 2)
  value := 4 * mantissa
  high := 4 * mantissa + 2
  closed := mantissa % 2 = 0

/-- Whether `num / den` lies in an interval. -/
def Interval.holds (i : Interval) (num den : Nat) : Bool :=
  if i.closed then i.low * den ≤ num && num ≤ i.high * den
  else i.low * den < num && num < i.high * den

/-- The number of decimal digits before the point of a positive quotient; below one, minus the
number of zeros that follow the point. -/
def magnitude (num den : Nat) : Int :=
  if den ≤ num then ((Nat.toDigits 10 (num / den)).length : Int)
  else
    match (List.range 400).find? fun j => den ≤ num * Nat.pow 10 (j + 1) with
    | some j => -(j : Int)
    | none => 0

/-- Of the two neighbours of an interval's value on the grid of `10 ^ unit` the one to write, if
any rounds to the double. -/
def Interval.onGrid (i : Interval) (exponent unit : Int) : Option Nat :=
  -- quarters of the last bit are `2 ^ (exponent - 2)`
  let (n, d) := scale i.value 1 2 (exponent - 2)
  let (n, d) := scale n d 10 (-unit)
  let floor := n / d
  -- a grid point `g` is `g · 10 ^ unit / 2 ^ (exponent - 2)` quarters
  let inside g :=
    let (a, b) := scale g 1 10 unit
    let (a, b) := scale a b 2 (2 - exponent)
    i.holds a b
  let nearFloor := 2 * (n % d) < d
  match inside floor, inside (floor + 1) with
  | true, true => some (if nearFloor then floor else floor + 1)
  | true, false => some floor
  | false, true => some (floor + 1)
  | false, false => none

/-- The shortest digits of `mantissa · 2 ^ exponent` and the power of ten that scales them. -/
def shortest (mantissa : Nat) (exponent : Int) : Nat × Int :=
  let i := interval mantissa exponent
  let (n, d) := ratio mantissa exponent
  let k := magnitude n d
  let grids := (List.range 17).map fun j : Nat => k - (j + 1 : Nat)
  (grids.findSome? fun unit => (i.onGrid exponent unit).map fun g => (g, unit)).getD (0, 0)

/-- `digits · 10 ^ e` with a point and no exponent; a whole number has no point. -/
def positional (digits : Nat) (e : Int) : String :=
  let ds := Nat.toDigits 10 digits
  if 0 ≤ e then String.ofList (ds ++ List.replicate e.toNat '0')
  else
    let places := (-e).toNat
    let ds := List.replicate (places + 1 - ds.length) '0' ++ ds
    let (whole, fraction) := ds.splitAt (ds.length - places)
    let fraction := (fraction.reverse.dropWhile (· == '0')).reverse
    if fraction.isEmpty then String.ofList whole
    else String.ofList (whole ++ '.' :: fraction)

end CatalogLint.Double
