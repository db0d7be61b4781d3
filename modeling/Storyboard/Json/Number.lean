import Storyboard.Decimal.Binary
import Storyboard.Json.Reader

/-!
# Numbers in JSON text

A number without fraction and exponent that fits 64 bits is kept as a whole
number.  Every other one is a double: as many of its first digits as fit 64 bits
make a whole number, which is scaled by a power of ten.  A number too large for a
double is malformed.
-/

namespace Storyboard
namespace Json

/-- A number as read. -/
inductive Number where
  /-- A whole number from `-2^63` up to `2^64 - 1`. -/
  | integer (value : Int)
  /-- Any other number. -/
  | real (value : Float)

/-- The number as a double. -/
def Number.toFloat : Number → Float
  | .integer value => Decimal.ofInteger value
  | .real value => value

/-- Whether a character is a decimal digit. -/
def isDigit (c : Char) : Bool := '0' ≤ c && c ≤ '9'

/-- The digits at the front of a text. -/
def leadingDigits (text : List Char) : List Char := text.takeWhile isDigit

/-- The text after the digits at its front. -/
def afterDigits (text : List Char) : List Char := text.dropWhile isDigit

/-- The whole number that digits spell. -/
def ofDigits (digits : List Char) : Nat :=
  digits.foldl (fun value c => value * 10 + (c.toNat - '0'.toNat)) 0

/-- At least one digit; without any, an end of the text and another character differ. -/
def someDigits : Reader (List Char) := fun text =>
  match leadingDigits text, text with
  | [], [] => .error .ended
  | [], _ :: _ => .error .malformed
  | digits, _ => .ok (digits, afterDigits text)

/-- The digits before the point; a leading zero stands alone. -/
def wholeDigits : Reader (List Char)
  | '0' :: rest => if leadingDigits rest = [] then .ok (['0'], rest) else .error .malformed
  | text => someDigits text

/-- The digits after a point, if there is one. -/
def fraction : Reader (List Char)
  | '.' :: rest => someDigits rest
  | text => .ok ([], text)

/-- The number after an exponent mark, its sign included. -/
def exponentValue : Reader Int
  | '+' :: rest => do
      let (digits, rest) ← someDigits rest
      return (ofDigits digits, rest)
  | '-' :: rest => do
      let (digits, rest) ← someDigits rest
      return (-(ofDigits digits : Int), rest)
  | rest => do
      let (digits, rest) ← someDigits rest
      return (ofDigits digits, rest)

/-- The exponent, if there is one. -/
def exponent : Reader (Option Int)
  | 'e' :: rest => do
      let (value, rest) ← exponentValue rest
      return (some value, rest)
  | 'E' :: rest => do
      let (value, rest) ← exponentValue rest
      return (some value, rest)
  | text => .ok (none, text)

/-- The first whole number that does not fit 64 bits. -/
def wholeBound : Nat := Nat.pow 2 64

/-- The digits that fit 64 bits, taken into a whole number, and the digits after them. -/
def gather : Nat → List Char → Nat × List Char
  | whole, [] => (whole, [])
  | whole, c :: rest =>
      let longer := whole * 10 + (c.toNat - '0'.toNat)
      if longer < wholeBound then gather longer rest else (whole, c :: rest)

/-- A double with a sign. -/
def signed (negative : Bool) (value : Float) : Float := if negative then -value else value

/-- A number that is kept as a double; one too large for it is malformed. -/
def real (negative : Bool) (coefficient : Nat) (power : Int) : Except Failure Number :=
  match Decimal.scale? coefficient power with
  | some value => .ok (.real (signed negative value))
  | none => .error .malformed

/-- The number of digits before a point, digits after it, and an exponent. -/
def numberOf (negative : Bool) (whole parts : List Char) (power : Option Int) :
    Except Failure Number :=
  let (front, unused) := gather 0 whole
  if parts = [] ∧ power = none ∧ unused = [] ∧ (negative → 0 < front ∧ front ≤ Nat.pow 2 63) then
    .ok (.integer (if negative then -(front : Int) else front))
  else
    let (coefficient, rest) := gather front parts
    real negative coefficient
      (power.getD 0 + unused.length - (parts.length - rest.length : Nat))

/-- A number, its sign apart. -/
def magnitude (negative : Bool) : Reader Number := fun text => do
  let (whole, rest) ← wholeDigits text
  let (parts, rest) ← fraction rest
  let (power, rest) ← exponent rest
  let value ← numberOf negative whole parts power
  return (value, rest)

/-- A number. -/
def number : Reader Number
  | '-' :: rest => magnitude true rest
  | text => magnitude false text

/-- At least one digit, where an end of the text counts as another character. -/
def skipSomeDigits : Reader Unit := fun text =>
  if leadingDigits text = [] then .error .malformed else .ok ((), afterDigits text)

/-- Pass over the digits before the point. -/
def skipWhole : Reader Unit
  | '0' :: rest => if leadingDigits rest = [] then .ok ((), rest) else .error .malformed
  | text => skipSomeDigits text

/-- Pass over an exponent, its mark apart. -/
def skipExponentValue : Reader Unit
  | '+' :: rest => skipSomeDigits rest
  | '-' :: rest => skipSomeDigits rest
  | rest => skipSomeDigits rest

/-- Pass over an exponent, if there is one. -/
def skipExponent : Reader Unit
  | 'e' :: rest => skipExponentValue rest
  | 'E' :: rest => skipExponentValue rest
  | text => .ok ((), text)

/-- Pass over a number, its sign apart. -/
def skipMagnitude : Reader Unit := fun text => do
  let (_, rest) ← skipWhole text
  match rest with
  | '.' :: rest => do
      let (_, rest) ← skipSomeDigits rest
      skipExponent rest
  | rest => skipExponent rest

/-- Pass over a number of any size. -/
def skipNumber : Reader Unit
  | '-' :: rest => skipMagnitude rest
  | text => skipMagnitude text

end Json
end Storyboard
