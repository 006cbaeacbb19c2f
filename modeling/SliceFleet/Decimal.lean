/-
SliceFleet.Decimal — the decimals that stand for binary numbers.

A finite binary number is `m * 2 ^ q`, and the reals that round to it form an
interval around it (`RoundingInterval`): it reaches half way to both
neighbours, and its ends belong to it if `m` is even. `Decimal.shortest`
takes the coarsest grid of powers of ten that has a point in the interval,
and of its points there the one nearest to the number; of two equally near
ones the even one. So it has the fewest digits that read back.
-/

namespace SliceFleet

/-- The number `digits * 10 ^ exponent`. -/
structure Decimal where
  digits : Nat
  exponent : Int
deriving DecidableEq, Repr

/-- A positive binary number with the reals that round to it. All three
numbers count units of `2 ^ exponent`. -/
structure RoundingInterval where
  low : Nat
  center : Nat
  high : Nat
  exponent : Int
  closed : Bool
deriving DecidableEq, Repr

namespace RoundingInterval

/-- One more than the greatest fraction that is stored of a number. -/
def fractionBound : Nat := 4503599627370496

/-- One more than the greatest exponent that is stored of a number. -/
def exponentBound : Nat := 2048

/-- The interval of a finite positive number. The neighbour below a power of
two is only half as far away as the one above. -/
def ofFloat (x : Float) : RoundingInterval :=
  let stored := x.toBits.toNat
  let fraction := stored % fractionBound
  let power := stored / fractionBound % exponentBound
  let whole := if power = 0 then fraction else fractionBound + fraction
  let gap := if fraction = 0 ∧ 1 < power then 1 else 2
  { low := 4 * whole - gap
    center := 4 * whole
    high := 4 * whole + 2
    exponent := (max power 1 : Nat) - 1077
    closed := whole % 2 == 0 }

/-- The point of the grid of that power of ten that is nearest to the number
and rounds to it. -/
def nearest? (interval : RoundingInterval) (power : Int) : Option Decimal :=
  let step := Nat.pow 10 power.toNat * Nat.pow 2 (-interval.exponent).toNat
  let unit := Nat.pow 2 interval.exponent.toNat * Nat.pow 10 (-power).toNat
  let within (count : Nat) : Bool :=
    if interval.closed then
      interval.low * unit ≤ count * step && count * step ≤ interval.high * unit
    else interval.low * unit < count * step && count * step < interval.high * unit
  let below := interval.center * unit / step
  let nearer := match compare (2 * interval.center * unit) ((2 * below + 1) * step) with
    | .lt => below
    | .gt => below + 1
    | .eq => below + below % 2
  let farther := 2 * below + 1 - nearer
  if within nearer then some ⟨nearer, power⟩
  else if within farther then some ⟨farther, power⟩
  else none

def exact (interval : RoundingInterval) : Decimal :=
  if 0 ≤ interval.exponent then ⟨interval.center * Nat.pow 2 interval.exponent.toNat, 0⟩
  else ⟨interval.center * Nat.pow 5 (-interval.exponent).toNat, interval.exponent⟩

end RoundingInterval

namespace Decimal

/-- The powers of ten from the greatest that a number can reach down to one
below the smallest number. -/
def powers : List Int :=
  (List.range 633).map fun (i : Nat) => 308 - (i : Int)

/-- The decimal with the fewest digits that rounds to a finite positive number. -/
def shortest (x : Float) : Decimal :=
  let interval := RoundingInterval.ofFloat x
  (powers.findSome? interval.nearest?).getD interval.exact

end Decimal

end SliceFleet
