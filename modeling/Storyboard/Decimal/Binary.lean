/-!
# Doubles as exact binary fractions

Every finite double is a sign, a whole mantissa and a power of two.  This module
takes a double apart, finds the double nearest to a quotient of whole numbers,
and computes on doubles where the result has to be exact.
-/

namespace Storyboard
namespace Decimal

/-- What a double stands for; a finite one is its mantissa times two to its exponent. -/
inductive Binary where
  /-- Not a number. -/
  | nan
  /-- An infinity. -/
  | infinite (negative : Bool)
  /-- A finite value. -/
  | finite (negative : Bool) (mantissa : Nat) (exponent : Int)
  deriving DecidableEq

/-- Take a double apart. -/
def Binary.ofFloat (x : Float) : Binary :=
  let bits : Nat := x.toBits.toNat
  let negative := bits / Nat.pow 2 63 == 1
  let field : Nat := bits / Nat.pow 2 52 % 2048
  let fraction : Nat := bits % Nat.pow 2 52
  if field = 2047 then
    if fraction = 0 then .infinite negative else .nan
  else if field = 0 then
    .finite negative fraction (-1074)
  else
    .finite negative (Nat.pow 2 52 + fraction) ((field : Int) - 1075)

/-- The greatest whole number up to which every whole number is a double. -/
def exactLimit : Nat := Nat.pow 2 53

/-- The whole number a double equals, when it is finite, whole and within `exactLimit`. -/
def exactInteger? (x : Float) : Option Int :=
  match Binary.ofFloat x with
  | .finite negative mantissa exponent =>
      let shift := (-exponent).toNat
      let magnitude := mantissa * Nat.pow 2 exponent.toNat / Nat.pow 2 shift
      if mantissa % Nat.pow 2 shift = 0 ∧ magnitude ≤ exactLimit then
        some (if negative then -(magnitude : Int) else magnitude)
      else
        none
  | _ => none

/-- Whether a double is neither infinite nor not a number. -/
def isFinite (x : Float) : Bool :=
  match Binary.ofFloat x with
  | .finite _ _ _ => true
  | _ => false

/-- Divide and round to the nearest whole number, a half to the even neighbour. -/
def roundHalfEven (numerator denominator : Nat) : Nat :=
  let quotient := numerator / denominator
  let remainder := numerator % denominator
  if 2 * remainder < denominator then quotient
  else if denominator < 2 * remainder then quotient + 1
  else if quotient % 2 = 0 then quotient else quotient + 1

/--
The exponent at which a quotient fills the mantissa of a double: the quotient
divided by that power of two lies between `2 ^ 52` and `2 ^ 53`, unless it is so
small that the least exponent applies.
-/
def mantissaExponent (numerator denominator : Nat) : Int :=
  let first := (Nat.log2 numerator : Int) - Nat.log2 denominator - 52
  let filled := numerator * Nat.pow 2 (-first).toNat / (denominator * Nat.pow 2 first.toNat)
  max (if filled < Nat.pow 2 52 then first - 1 else first) (-1074)

/-- The bits of an infinity, the sign apart. -/
def infinityBits : Nat := 2047 * Nat.pow 2 52

/-- The bits, the sign apart, of the double nearest to a quotient. -/
def nearestBits (numerator denominator : Nat) : Nat :=
  if numerator = 0 then 0
  else
    let exponent := mantissaExponent numerator denominator
    let mantissa :=
      roundHalfEven (numerator * Nat.pow 2 (-exponent).toNat)
        (denominator * Nat.pow 2 exponent.toNat)
    min ((exponent + 1074).toNat * Nat.pow 2 52 + mantissa) infinityBits

/-- The double nearest to a quotient; one that is too large becomes an infinity. -/
def nearest (negative : Bool) (numerator denominator : Nat) : Float :=
  let magnitude := nearestBits numerator denominator
  Float.ofBits (UInt64.ofNat (if negative then Nat.pow 2 63 + magnitude else magnitude))

/-- The double nearest to a whole number. -/
def ofInteger (value : Int) : Float :=
  nearest (value < 0) value.natAbs 1

/-- The greatest power of ten that is a double. -/
def powerLimit : Nat := 308

/-- The double nearest to a power of ten. -/
def powerOfTen (power : Nat) : Float := nearest false (Nat.pow 10 power) 1

/--
A whole number times a power of ten, computed on doubles: the whole number is
rounded, then multiplied or divided by the power, in two steps where one power
does not reach.  Nothing is returned where the result would not be finite.
-/
def scale? (coefficient : Nat) (exponent : Int) : Option Float :=
  let rounded := nearest false coefficient 1
  if coefficient = 0 then some rounded
  else if (powerLimit : Int) < exponent then none
  else if 0 ≤ exponent then
    let product := rounded * powerOfTen exponent.toNat
    if isFinite product then some product else none
  else if -(powerLimit : Int) ≤ exponent then some (rounded / powerOfTen (-exponent).toNat)
  else if -(2 * powerLimit : Int) ≤ exponent then
    some (rounded / powerOfTen powerLimit / powerOfTen (-exponent - powerLimit).toNat)
  else some (nearest false 0 1)

/--
The remainder of a division whose quotient is cut off toward zero.  It has the
sign of the dividend and is exact; there is none for an infinite dividend or a
zero divisor.
-/
def remainder (x y : Float) : Float :=
  match Binary.ofFloat x, Binary.ofFloat y with
  | .finite negative m e, .finite _ n f =>
      if n = 0 then 0.0 / 0.0
      else
        let base := min e f
        let rest := m * Nat.pow 2 (e - base).toNat % (n * Nat.pow 2 (f - base).toNat)
        nearest negative (rest * Nat.pow 2 base.toNat) (Nat.pow 2 (-base).toNat)
  | .finite _ _ _, .infinite _ => x
  | _, _ => 0.0 / 0.0

/-- The lesser of two doubles, of equal ones the second; what is not a number gives way to the
other. -/
def lesser (x y : Float) : Float :=
  if x.isNaN || y ≤ x then y else x

/-- The greater of two doubles, of equal ones the second; what is not a number gives way to the
other. -/
def greater (x y : Float) : Float :=
  if x.isNaN || x ≤ y then y else x

/-- The whole part of a finite double, cut off toward zero and held within 64 signed bits. -/
def truncate? (x : Float) : Option Int :=
  match Binary.ofFloat x with
  | .finite negative mantissa exponent =>
      let magnitude := mantissa * Nat.pow 2 exponent.toNat / Nat.pow 2 (-exponent).toNat
      if negative then some (max (-(magnitude : Int)) (-(Nat.pow 2 63 : Int)))
      else some (min (magnitude : Int) (Nat.pow 2 63 - 1))
  | _ => none

end Decimal
end Storyboard
