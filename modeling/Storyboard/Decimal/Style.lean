import Storyboard.Decimal.Shortest

/-!
# Number styles

How a double is written: where plain digits end and an exponent begins, whether a
whole number keeps a point, and how the values without digits are spelt.  A style
is data; one function writes a double in any style.
-/

namespace Storyboard
namespace Decimal

/-- How doubles are written. -/
structure Style where
  /-- Which of two equally near decimals is written. -/
  tie : Tie
  /-- Whether a value whose leading digit has this power of ten is written without exponent. -/
  plain : Int → Bool
  /-- What follows a whole number that is written plainly. -/
  wholeSuffix : String
  /-- The sign of a positive exponent. -/
  exponentSign : String
  /-- The text of what is not a number. -/
  nan : String
  /-- The text of positive infinity. -/
  infinity : String

/-- The decimal digits of a whole number. -/
def natChars (n : Nat) : List Char := Nat.toDigits 10 n

/-- The decimal text of a whole number. -/
def intChars : Int → List Char
  | .ofNat n => natChars n
  | .negSucc n => '-' :: natChars (n + 1)

/-- Digits around a point that stands `point` places after the first digit's left edge. -/
def plainChars (style : Style) (digits : List Char) (point : Int) : List Char :=
  if point ≤ 0 then
    '0' :: '.' :: (List.replicate (-point).toNat '0' ++ digits)
  else if (digits.length : Int) ≤ point then
    digits ++ List.replicate (point.toNat - digits.length) '0' ++ style.wholeSuffix.toList
  else
    digits.take point.toNat ++ '.' :: digits.drop point.toNat

/-- One digit, the others after a point, and the power of ten. -/
def exponentChars (style : Style) (digits : List Char) (power : Int) : List Char :=
  let fraction := match digits.drop 1 with
    | [] => []
    | rest => '.' :: rest
  let sign := if 0 ≤ power then style.exponentSign.toList else []
  digits.take 1 ++ fraction ++ 'e' :: (sign ++ intChars power)

/-- The digits of a decimal without the zeros at its end. -/
def significant (digits : List Char) : List Char :=
  (digits.reverse.dropWhile (· == '0')).reverse

/-- The text of a double, its sign apart. -/
def magnitudeChars (style : Style) (mantissa : Nat) (exponent : Int) : List Char :=
  if mantissa = 0 then
    '0' :: style.wholeSuffix.toList
  else
    let decimal := shortest style.tie mantissa exponent
    let all := natChars decimal.coefficient
    let point := (all.length : Int) + decimal.exponent
    if style.plain (point - 1) then plainChars style (significant all) point
    else exponentChars style (significant all) (point - 1)

/-- The text of a double. -/
def Style.chars (style : Style) (x : Float) : List Char :=
  match Binary.ofFloat x with
  | .nan => style.nan.toList
  | .infinite negative => (if negative then ['-'] else []) ++ style.infinity.toList
  | .finite negative mantissa exponent =>
      (if negative then ['-'] else []) ++ magnitudeChars style mantissa exponent

/-- Data interchange: plain from `0.00001` up to sixteen digits, then `1e-6` and `1e+16`. -/
def interchange : Style where
  tie := .even
  plain power := -5 ≤ power && power ≤ 15
  wholeSuffix := ".0"
  exponentSign := "+"
  nan := "null"
  infinity := "null"

/-- For readers: never an exponent, and no point after a whole number. -/
def reading : Style where
  tie := .up
  plain _ := true
  wholeSuffix := ""
  exponentSign := ""
  nan := "NaN"
  infinity := "inf"

/-- For inspection: a whole number keeps a point; exponents below `0.0001` and from `1e16`. -/
def inspection : Style where
  tie := .up
  plain power := -4 ≤ power && power ≤ 15
  wholeSuffix := ".0"
  exponentSign := ""
  nan := "NaN"
  infinity := "inf"

/-- A double for readers: a whole number within the exact range is written as one, without sign
of zero. -/
def displayChars (x : Float) : List Char :=
  match exactInteger? x with
  | some value => intChars value
  | none => reading.chars x

/-- A double in data interchange, where values without digits become `null`. -/
def interchangeChars (x : Float) : List Char :=
  match exactInteger? x with
  | some value => intChars value
  | none => if isFinite x then interchange.chars x else interchange.nan.toList

theorem intChars_ne_nil (value : Int) : intChars value ≠ [] := by
  cases value with
  | ofNat n => exact Nat.toDigits_ne_nil
  | negSucc n => exact List.cons_ne_nil _ _

theorem plainChars_ne_nil (style : Style) (digits : List Char) (point : Int) :
    plainChars style digits point ≠ [] := by
  unfold plainChars
  split
  · exact List.cons_ne_nil _ _
  · next positive =>
    split
    · intro nothing
      obtain ⟨front, -⟩ := List.append_eq_nil_iff.mp nothing
      obtain ⟨noDigits, noZeros⟩ := List.append_eq_nil_iff.mp front
      rw [noDigits, List.replicate_eq_nil_iff, List.length_nil] at noZeros
      omega
    · exact List.append_ne_nil_of_right_ne_nil _ (List.cons_ne_nil _ _)

/-- Every double has a text for readers. -/
theorem displayChars_ne_nil (x : Float) : displayChars x ≠ [] := by
  unfold displayChars
  split
  · exact intChars_ne_nil _
  · unfold Style.chars
    split
    · decide
    · exact List.append_ne_nil_of_right_ne_nil _ (by decide)
    · refine List.append_ne_nil_of_right_ne_nil _ ?_
      unfold magnitudeChars
      split
      · exact List.cons_ne_nil _ _
      · exact plainChars_ne_nil reading _ _

end Decimal
end Storyboard
