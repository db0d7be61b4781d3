import Storyboard.Proofs.Decimal.Whole

/-!
# Doubles without digits

Infinities and what is not a number have no digits.  These are the doubles with the greatest
exponent, and none of them equals a whole number.
-/

namespace Storyboard
namespace Decimal

/-- Whether a double is not a number, or an infinity. -/
def lacksDigits (x : Float) : Bool := x.isNaN || x.isInf

open Float.Model in
/-- Exactly the doubles with the greatest exponent lack digits. -/
theorem lacksDigits_iff
    {x : Float} :
    lacksDigits x = true ↔ x.toBits.toNat / 2 ^ 52 % 2048 = 2047 := by
  have unpacked : lacksDigits x =
      ((UnpackedFloat.unpack Format.binary64 x.toBits.toBitVec).isNaN ||
        (UnpackedFloat.unpack Format.binary64 x.toBits.toBitVec).isInf) := rfl
  rw [unpacked, UnpackedFloat.unpack, ← unpackExponent_eq_iff]
  split
  · next full =>
    refine iff_of_true ?_ full
    split <;> rfl
  · next notFull =>
    refine iff_of_false ?_ notFull
    split
    · split <;> exact Bool.false_ne_true
    · exact Bool.false_ne_true

/-- A double is finite unless it lacks digits. -/
theorem isFinite_eq (x : Float) : isFinite x = !lacksDigits x := by
  cases lacks : lacksDigits x with
  | true =>
      have full : x.toBits.toNat / Nat.pow 2 52 % 2048 = 2047 := lacksDigits_iff.mp lacks
      simp only [isFinite, Binary.ofFloat, if_pos full]
      split_ifs <;> rfl
  | false =>
      have notFull : ¬ x.toBits.toNat / Nat.pow 2 52 % 2048 = 2047 := fun full => by
        rw [lacksDigits_iff.mpr full] at lacks
        cases lacks
      simp only [isFinite, Binary.ofFloat, if_neg notFull]
      split_ifs <;> rfl

/-- A double that equals a whole number has digits. -/
theorem lacksDigits_of_exactInteger?
    {x : Float}
    {whole : Int}
    (exact : exactInteger? x = some whole) :
    lacksDigits x = false := by
  obtain ⟨_, _, _, finite, -⟩ := finite_of_exactInteger? exact
  have digits : isFinite x = true := by rw [isFinite, finite]
  rwa [isFinite_eq, Bool.not_eq_true'] at digits

end Decimal
end Storyboard
