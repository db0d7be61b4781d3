import Storyboard.Decimal.Binary

/-!
# Shortest decimals

The decimal with the fewest digits that still reads back as a given double.  All
reals within half a step of the double round to it; on the coarsest decimal grid
that has a point among them, the nearer of the double's two neighbours is taken.
-/

namespace Storyboard
namespace Decimal

/-- Which neighbour is taken when both are equally near. -/
inductive Tie where
  /-- The one with an even last digit. -/
  | even
  /-- The greater one. -/
  | up
  deriving DecidableEq

/-- A decimal: a whole coefficient times a power of ten. -/
structure Scaled where
  /-- The digits, read as a whole number. -/
  coefficient : Nat
  /-- The power of ten of the last digit. -/
  exponent : Int
  deriving DecidableEq

/--
The reals that round to a double, as numerators over one denominator: the double
itself, the two ends, and whether the ends belong to it.
-/
structure Rounding where
  /-- The double. -/
  value : Nat
  /-- The lower end. -/
  low : Nat
  /-- The upper end. -/
  high : Nat
  /-- The common denominator. -/
  denominator : Nat
  /-- Whether the ends round to the double too. -/
  closed : Bool

/-- The reals that round to the double `mantissa * 2 ^ exponent`. -/
def Rounding.of (mantissa : Nat) (exponent : Int) : Rounding :=
  let factor := Nat.pow 2 (exponent - 2).toNat
  let narrow := mantissa = Nat.pow 2 52 ∧ -1074 < exponent
  { value := 4 * mantissa * factor
    low := (if narrow then 4 * mantissa - 1 else 4 * mantissa - 2) * factor
    high := (4 * mantissa + 2) * factor
    denominator := Nat.pow 2 (2 - exponent).toNat
    closed := mantissa % 2 = 0 }

/-- Whether a decimal lies among the reals that round to the double. -/
def Rounding.holds (range : Rounding) (point : Scaled) : Bool :=
  let scaled := point.coefficient * Nat.pow 10 point.exponent.toNat * range.denominator
  let shift := Nat.pow 10 (-point.exponent).toNat
  if range.closed then range.low * shift ≤ scaled && scaled ≤ range.high * shift
  else range.low * shift < scaled && scaled < range.high * shift

/-- The power of ten of the leading digit of a positive quotient. -/
def leadingPower (numerator denominator : Nat) : Int :=
  if denominator ≤ numerator then
    ((Nat.toDigits 10 (numerator / denominator)).length : Int) - 1
  else
    let width := (Nat.toDigits 10 (denominator / numerator)).length
    if numerator * Nat.pow 10 (width - 1) = denominator then -((width : Int) - 1)
    else -(width : Int)

/-- The best decimal on the grid of one power of ten, if that grid has one in range. -/
def Rounding.onGrid (range : Rounding) (tie : Tie) (power : Int) : Option Scaled :=
  let numerator := range.value * Nat.pow 10 (-power).toNat
  let denominator := range.denominator * Nat.pow 10 power.toNat
  let below : Scaled := ⟨numerator / denominator, power⟩
  let above : Scaled := ⟨numerator / denominator + 1, power⟩
  let twice := 2 * (numerator % denominator)
  match range.holds below, range.holds above with
  | true, false => some below
  | false, true => some above
  | false, false => none
  | true, true =>
      if twice < denominator then some below
      else if denominator < twice then some above
      else match tie with
        | .up => some above
        | .even => if below.coefficient % 2 = 0 then some below else some above

/-- The shortest decimal of the positive double `mantissa * 2 ^ exponent`. -/
def shortest (tie : Tie) (mantissa : Nat) (exponent : Int) : Scaled :=
  let range := Rounding.of mantissa exponent
  let leading := leadingPower range.value range.denominator
  let grids := (List.range 17).map fun (count : Nat) => leading - (count : Int)
  (grids.findSome? (range.onGrid tie)).getD ⟨mantissa, exponent⟩

end Decimal
end Storyboard
