import Mathlib
import Storyboard.Decimal.Binary

/-!
# Doubles that are whole numbers

A double that equals a whole number is the double nearest to that number, up to the sign of
zero.
-/

namespace Storyboard
namespace Decimal

/-- A double whose exponent is not the greatest one equals itself. -/
theorem beq_self
    {x : Float}
    (finite : x.toBits.toNat / 2 ^ 52 % 2048 ≠ 2047) :
    (x == x) = true := by
  rw [Float.beq_self_iff]
  rintro rfl
  exact finite (by decide)

theorem log2_mul_two_pow
    {number : Nat}
    (positive : number ≠ 0)
    (power : Nat) :
    (number * 2 ^ power).log2 = number.log2 + power := by
  have scale : 0 < 2 ^ power := Nat.two_pow_pos power
  rw [Nat.log2_eq_iff (Nat.mul_ne_zero positive (Nat.ne_of_gt scale)), Nat.pow_add,
    Nat.add_right_comm, Nat.pow_add]
  constructor
  · exact Nat.mul_le_mul_right _ (Nat.log2_self_le positive)
  · exact Nat.mul_lt_mul_of_pos_right Nat.lt_log2_self scale

/-- A quotient without remainder is not rounded. -/
theorem roundHalfEven_mul
    (quotient : Nat)
    {denominator : Nat}
    (positive : 0 < denominator) :
    roundHalfEven (quotient * denominator) denominator = quotient := by
  have smaller : 2 * 0 < denominator := positive
  simp only [roundHalfEven, Nat.mul_mod_left, Nat.mul_div_cancel _ positive, if_pos smaller]

section Nearest

variable {magnitude mantissa field : Nat}

/-- The exponent that fills the mantissa of a whole number is the one that it is written with. -/
theorem mantissaExponent_whole
    (low : 2 ^ 52 ≤ mantissa)
    (high : mantissa < 2 ^ 53)
    (positive : 1 ≤ field)
    (nonzero : magnitude ≠ 0)
    (same : magnitude * 2 ^ (-((field : Int) - 1075)).toNat =
      mantissa * 2 ^ ((field : Int) - 1075).toNat) :
    mantissaExponent magnitude 1 = (field : Int) - 1075 := by
  have filledNonzero : mantissa ≠ 0 := by omega
  have width : mantissa.log2 = 52 := (Nat.log2_eq_iff filledNonzero).mpr ⟨low, high⟩
  have lengths := congrArg Nat.log2 same
  rw [log2_mul_two_pow nonzero, log2_mul_two_pow filledNonzero, width] at lengths
  have first : (magnitude.log2 : Int) - (1 : Nat).log2 - 52 = (field : Int) - 1075 := by
    have none : (1 : Nat).log2 = 0 := by decide
    omega
  have filled : magnitude * 2 ^ (-((field : Int) - 1075)).toNat /
      (1 * 2 ^ ((field : Int) - 1075).toNat) = mantissa := by
    rw [same, Nat.one_mul, Nat.mul_div_cancel _ (Nat.two_pow_pos _)]
  simp only [mantissaExponent, Nat.pow_eq, first, filled]
  rw [if_neg (Nat.not_lt.mpr low)]
  omega

/-- The bits of a whole number are those of the exponent and the mantissa that it is written
with. -/
theorem nearestBits_whole
    (low : 2 ^ 52 ≤ mantissa)
    (high : mantissa < 2 ^ 53)
    (positive : 1 ≤ field)
    (finite : field < 2047)
    (nonzero : magnitude ≠ 0)
    (same : magnitude * 2 ^ (-((field : Int) - 1075)).toNat =
      mantissa * 2 ^ ((field : Int) - 1075).toNat) :
    nearestBits magnitude 1 = (field - 1) * 2 ^ 52 + mantissa := by
  have exact : roundHalfEven (magnitude * 2 ^ (-((field : Int) - 1075)).toNat)
      (1 * 2 ^ ((field : Int) - 1075).toNat) = mantissa := by
    rw [same, Nat.one_mul, roundHalfEven_mul mantissa (Nat.two_pow_pos _)]
  have biased : ((field : Int) - 1075 + 1074).toNat = field - 1 := by omega
  simp only [nearestBits, Nat.pow_eq, infinityBits, if_neg nonzero,
    mantissaExponent_whole low high positive nonzero same, exact, biased]
  omega

end Nearest

/-- The two zeros equal the double nearest to zero. -/
theorem beq_ofInteger_zero
    {x : Float}
    (zero : x.toBits.toNat % 2 ^ 63 = 0) :
    (x == ofInteger 0) = true := by
  have bounded : x.toBits.toNat < 2 ^ 64 := x.toBits.toNat_lt
  have either : x.toBits = 0 ∨ x.toBits = 9223372036854775808 := by
    have split : x.toBits.toNat = 0 ∨ x.toBits.toNat = 9223372036854775808 := by omega
    exact split.imp UInt64.toNat_inj.mp UInt64.toNat_inj.mp
  rw [← Float.ofBits_toBits x]
  rcases either with same | same <;> rw [same] <;> decide

/-- The double of a whole number's bits, its sign among them. -/
theorem ofInteger_eq
    {negative : Bool}
    {magnitude : Nat}
    (nonzero : magnitude ≠ 0) :
    ofInteger (if negative then -(magnitude : Int) else magnitude) =
      Float.ofBits (UInt64.ofNat (negative.toNat * 2 ^ 63 + nearestBits magnitude 1)) := by
  cases negative with
  | false =>
      have sign : ¬ (magnitude : Int) < 0 := by omega
      simp [ofInteger, nearest, sign]
  | true =>
      have sign : 0 < magnitude := by omega
      simp [ofInteger, nearest, sign]

/-- The parts of a finite double: it is small and its exponent is the least, or its mantissa is
full and its exponent is one of the others. -/
theorem toNat_toBits_of_finite
    {x : Float}
    {negative : Bool}
    {mantissa : Nat}
    {exponent : Int}
    (finite : Binary.ofFloat x = .finite negative mantissa exponent) :
    (x.toBits.toNat = negative.toNat * 2 ^ 63 + mantissa ∧ mantissa < 2 ^ 52 ∧
        exponent = -1074) ∨
      ∃ field : Nat, 1 ≤ field ∧ field < 2047 ∧ exponent = (field : Int) - 1075 ∧
        2 ^ 52 ≤ mantissa ∧ mantissa < 2 ^ 53 ∧
        x.toBits.toNat = negative.toNat * 2 ^ 63 + (field - 1) * 2 ^ 52 + mantissa := by
  have bounded : x.toBits.toNat < 2 ^ 64 := x.toBits.toNat_lt
  simp only [Binary.ofFloat, Nat.pow_eq] at finite
  generalize x.toBits.toNat = bits at *
  have sign : (bits / 2 ^ 63 == 1).toNat = bits / 2 ^ 63 := by
    have either : bits / 2 ^ 63 = 0 ∨ bits / 2 ^ 63 = 1 := by omega
    rcases either with zero | one
    · rw [zero]
      rfl
    · rw [one]
      rfl
  split at finite
  · split at finite <;> cases finite
  · split at finite
    · next least =>
      obtain ⟨rfl, rfl, rfl⟩ := Binary.finite.inj finite
      rw [sign]
      omega
    · next notLeast =>
      obtain ⟨rfl, rfl, rfl⟩ := Binary.finite.inj finite
      refine .inr ⟨bits / 2 ^ 52 % 2048, ?_⟩
      rw [sign]
      omega

/-- A double that equals a whole number is finite, and what its exponent takes from the mantissa
is nothing. -/
theorem finite_of_exactInteger?
    {x : Float}
    {value : Int}
    (whole : exactInteger? x = some value) :
    ∃ negative mantissa exponent, Binary.ofFloat x = .finite negative mantissa exponent ∧
      ∃ magnitude ≤ exactLimit,
        magnitude * 2 ^ (-exponent).toNat = mantissa * 2 ^ exponent.toNat ∧
        value = if negative then -(magnitude : Int) else magnitude := by
  unfold exactInteger? at whole
  split at whole
  · next negative mantissa exponent finite =>
    simp only [Nat.pow_eq] at whole
    split at whole
    · next exact =>
      refine ⟨negative, mantissa, exponent, finite, _, exact.2, ?_, (Option.some.inj whole).symm⟩
      exact Nat.div_mul_cancel (Nat.dvd_mul_right_of_dvd (Nat.dvd_of_mod_eq_zero exact.1) _)
    · cases whole
  · cases whole

/-- A double that equals a whole number equals itself. -/
theorem beq_self_of_exactInteger?
    {x : Float}
    {value : Int}
    (whole : exactInteger? x = some value) :
    (x == x) = true := by
  obtain ⟨negative, mantissa, exponent, finite, -⟩ := finite_of_exactInteger? whole
  have sign : negative.toNat ≤ 1 := negative.toNat_le
  apply beq_self
  rcases toNat_toBits_of_finite finite with ⟨bits, short, -⟩ |
    ⟨field, positive, notFull, -, low, high, bits⟩ <;> omega

/-- A whole number that a double is known to equal is within the exact range. -/
theorem natAbs_le_of_exactInteger?
    {x : Float}
    {value : Int}
    (whole : exactInteger? x = some value) :
    value.natAbs ≤ exactLimit := by
  obtain ⟨negative, _, _, _, magnitude, limited, _, rfl⟩ := finite_of_exactInteger? whole
  cases negative <;> simpa using limited

/-- A number too short for a power of two is no multiple of it, unless it is zero. -/
theorem eq_zero_of_mul_two_pow
    {factor power length number : Nat}
    (longer : length ≤ power)
    (multiple : factor * 2 ^ power = number)
    (short : number < 2 ^ length) :
    factor = 0 := by
  have less : factor * 2 ^ power < 1 * 2 ^ power := by
    rw [multiple, Nat.one_mul]
    exact Nat.lt_of_lt_of_le short (Nat.pow_le_pow_right Nat.two_pos longer)
  exact Nat.lt_one_iff.mp (Nat.lt_of_mul_lt_mul_right less)

/-- A double that equals a whole number is the double nearest to that number, up to the sign of
zero. -/
theorem beq_ofInteger
    {x : Float}
    {value : Int}
    (whole : exactInteger? x = some value) :
    (x == ofInteger value) = true := by
  obtain ⟨negative, mantissa, exponent, finite, magnitude, -, same, rfl⟩ :=
    finite_of_exactInteger? whole
  have sign : negative.toNat ≤ 1 := negative.toNat_le
  rcases toNat_toBits_of_finite finite with ⟨bits, short, rfl⟩ |
    ⟨field, positive, notFull, rfl, low, high, bits⟩
  · have multiple : magnitude * 2 ^ (-(-1074 : Int)).toNat = mantissa :=
      same.trans (Nat.mul_one mantissa)
    have zero : magnitude = 0 := eq_zero_of_mul_two_pow (by decide) multiple short
    subst zero
    rw [Nat.zero_mul] at multiple
    have unsigned : (if negative then -((0 : Nat) : Int) else (0 : Nat)) = 0 := by
      cases negative <;> rfl
    rw [unsigned]
    apply beq_ofInteger_zero
    omega
  · have nonzero : magnitude ≠ 0 := by
      rintro rfl
      rw [Nat.zero_mul] at same
      have filled : 0 < mantissa * 2 ^ ((field : Int) - 1075).toNat :=
        Nat.mul_pos (by omega) (Nat.two_pow_pos _)
      omega
    have nearest : nearestBits magnitude 1 = (field - 1) * 2 ^ 52 + mantissa :=
      nearestBits_whole low high positive notFull nonzero same
    have together : negative.toNat * 2 ^ 63 + nearestBits magnitude 1 = x.toBits.toNat := by
      omega
    rw [ofInteger_eq nonzero, together, UInt64.ofNat_toNat, Float.ofBits_toBits]
    apply beq_self
    omega

/-! ## Which doubles are whole numbers -/

section Unpacked

open Float.Model

/-- The exponent among the bits of a double is the greatest one exactly if all its bits are set. -/
theorem unpackExponent_eq_iff
    {bits : UInt64} :
    @UnpackedFloat.unpackExponent Format.binary64 bits.toBitVec =
        -BitVec.ofNat Format.binary64.exponentBits 1 ↔
      bits.toNat / 2 ^ 52 % 2048 = 2047 := by
  rw [← BitVec.toNat_inj, UnpackedFloat.unpackExponent_def, BitVec.extractLsb'_toNat,
    Nat.shiftRight_eq_div_pow]
  rfl

/-- The bits of a double that is made of bits are these, unless they stand for no number. -/
theorem toBits_ofBits
    {bits : UInt64}
    (finite : bits.toNat / 2 ^ 52 % 2048 ≠ 2047) :
    (Float.ofBits bits).toBits = bits := by
  have number : @UnpackedFloat.isNaNBits Format.binary64 bits.toBitVec = false := by
    rw [UnpackedFloat.isNaNBits, decide_eq_false_iff_not]
    rintro ⟨full, -⟩
    exact finite (unpackExponent_eq_iff.mp full)
  have packed := @UnpackedFloat.pack_unpack Format.binary64 bits.toBitVec (by decide)
  rw [number] at packed
  exact UInt64.toBitVec_inj.mp packed

end Unpacked

/-- The parts of a double that is made of a sign, an exponent and a full mantissa. -/
theorem ofFloat_ofBits
    {negative : Bool}
    {mantissa field bits : Nat}
    (same : bits = negative.toNat * 2 ^ 63 + ((field - 1) * 2 ^ 52 + mantissa))
    (low : 2 ^ 52 ≤ mantissa)
    (high : mantissa < 2 ^ 53)
    (positive : 1 ≤ field)
    (finite : field < 2047) :
    Binary.ofFloat (Float.ofBits (UInt64.ofNat bits)) =
      .finite negative mantissa ((field : Int) - 1075) := by
  have sign : negative.toNat ≤ 1 := negative.toNat_le
  have bounded : bits < 2 ^ 64 := by omega
  have number : (UInt64.ofNat bits).toNat = bits := UInt64.toNat_ofNat_of_lt' bounded
  have exponent : bits / 2 ^ 52 % 2048 = field := by omega
  have signBit : bits / 2 ^ 63 = negative.toNat := by omega
  have fraction : 2 ^ 52 + bits % 2 ^ 52 = mantissa := by omega
  have kept : (Float.ofBits (UInt64.ofNat bits)).toBits = UInt64.ofNat bits :=
    toBits_ofBits (by omega)
  simp only [Binary.ofFloat, kept, number, Nat.pow_eq, exponent, signBit, fraction]
  rw [if_neg (by omega), if_neg (by omega)]
  cases negative <;> rfl

/-- A whole number within the exact range fills a mantissa without a remainder. -/
theorem exists_full_mantissa
    {magnitude : Nat}
    (nonzero : magnitude ≠ 0)
    (bounded : magnitude ≤ 2 ^ 53) :
    ∃ mantissa field : Nat, 2 ^ 52 ≤ mantissa ∧ mantissa < 2 ^ 53 ∧ 1 ≤ field ∧ field < 2047 ∧
      magnitude * 2 ^ (-((field : Int) - 1075)).toNat =
        mantissa * 2 ^ ((field : Int) - 1075).toNat := by
  rcases Nat.lt_or_ge magnitude (2 ^ 53) with smaller | limit
  · have length : magnitude.log2 ≤ 52 := by
      have less := (Nat.log2_lt nonzero).mpr smaller
      omega
    have width : (magnitude * 2 ^ (52 - magnitude.log2)).log2 = 52 := by
      rw [log2_mul_two_pow nonzero]
      omega
    have scaled : magnitude * 2 ^ (52 - magnitude.log2) ≠ 0 :=
      Nat.mul_ne_zero nonzero (Nat.ne_of_gt (Nat.two_pow_pos _))
    obtain ⟨low, high⟩ := (Nat.log2_eq_iff scaled).mp width
    have down : (-(((magnitude.log2 + 1023 : Nat) : Int) - 1075)).toNat = 52 - magnitude.log2 := by
      omega
    have up : (((magnitude.log2 + 1023 : Nat) : Int) - 1075).toNat = 0 := by omega
    refine ⟨_, magnitude.log2 + 1023, low, high, by omega, by omega, ?_⟩
    rw [down, up, Nat.pow_zero, Nat.mul_one]
  · obtain rfl : magnitude = 2 ^ 53 := Nat.le_antisymm bounded limit
    exact ⟨2 ^ 52, 1076, by decide, by decide, by decide, by decide, by decide⟩

/-- The double of a whole number within the exact range is known to equal it. -/
theorem exactInteger?_ofInteger
    {value : Int}
    (bounded : value.natAbs ≤ exactLimit) :
    exactInteger? (ofInteger value) = some value := by
  by_cases zero : value = 0
  · subst zero
    decide +kernel
  · have nonzero : value.natAbs ≠ 0 := Int.natAbs_ne_zero.mpr zero
    have signed : (if decide (value < 0) then -(value.natAbs : Int) else value.natAbs) = value := by
      by_cases negative : value < 0
      · rw [if_pos (decide_eq_true negative)]
        omega
      · rw [if_neg (by simpa using negative)]
        omega
    obtain ⟨mantissa, field, low, high, positive, finite, equal⟩ :=
      exists_full_mantissa nonzero bounded
    have bits := nearestBits_whole low high positive finite nonzero equal
    have made : ofInteger value = Float.ofBits (UInt64.ofNat
        ((decide (value < 0)).toNat * 2 ^ 63 + ((field - 1) * 2 ^ 52 + mantissa))) := by
      rw [← bits, ← ofInteger_eq nonzero, signed]
    have exactly : mantissa % 2 ^ (-((field : Int) - 1075)).toNat = 0 ∧
        mantissa * 2 ^ ((field : Int) - 1075).toNat / 2 ^ (-((field : Int) - 1075)).toNat =
          value.natAbs := by
      rw [← equal, Nat.mul_div_cancel _ (Nat.two_pow_pos _)]
      refine ⟨?_, rfl⟩
      rcases Nat.lt_or_ge field 1076 with low | high
      · have up : ((field : Int) - 1075).toNat = 0 := by omega
        rw [up, Nat.pow_zero, Nat.mul_one] at equal
        rw [← equal]
        exact Nat.mul_mod_left _ _
      · have down : (-((field : Int) - 1075)).toNat = 0 := by omega
        rw [down]
        exact Nat.mod_one mantissa
    simp only [exactInteger?, made, ofFloat_ofBits rfl low high positive finite, Nat.pow_eq,
      exactly, bounded, true_and, if_true, signed]

/-- A double is known to equal a whole number exactly if it does and the number is within the exact
range. -/
theorem exactInteger?_eq_some_iff
    {x : Float}
    {value : Int} :
    exactInteger? x = some value ↔ value.natAbs ≤ exactLimit ∧ (x == ofInteger value) = true := by
  constructor
  · exact fun whole => ⟨natAbs_le_of_exactInteger? whole, beq_ofInteger whole⟩
  · rintro ⟨bounded, equal⟩
    have whole := exactInteger?_ofInteger bounded
    obtain ⟨-, -, rfl | ⟨rfl, other⟩ | ⟨rfl, other⟩⟩ := Float.beq_iff_ne_nan_and_eq.mp equal
    · exact whole
    · rw [← whole, other]
      decide +kernel
    · rw [← whole, other]
      decide +kernel

/-- A double that equals a whole number is cut off to that number. -/
theorem truncate?_of_exactInteger?
    {x : Float}
    {value : Int}
    (whole : exactInteger? x = some value) :
    truncate? x = some value := by
  obtain ⟨negative, mantissa, exponent, finite, magnitude, limited, same, rfl⟩ :=
    finite_of_exactInteger? whole
  have cut : mantissa * 2 ^ exponent.toNat / 2 ^ (-exponent).toNat = magnitude := by
    rw [← same, Nat.mul_div_cancel _ (Nat.two_pow_pos _)]
  have small : magnitude ≤ 2 ^ 53 := limited
  simp only [truncate?, finite, Nat.pow_eq, cut]
  cases negative with
  | true =>
      simp only [if_true]
      congr 1
      omega
  | false =>
      simp only [Bool.false_eq_true, if_false]
      congr 1
      omega

/-- No count is rounded to a negative number. -/
theorem ofInteger_natCast_ne_ofInteger_neg_one
    (count : Nat) :
    ofInteger count ≠ ofInteger (-1) := by
  have made : ofInteger count = Float.ofBits (UInt64.ofNat (nearestBits count 1)) := by
    have sign : ¬ (count : Int) < 0 := by omega
    simp [ofInteger, nearest, sign]
  have limited : nearestBits count 1 ≤ infinityBits := by
    unfold nearestBits
    split
    · exact Nat.zero_le _
    · exact Nat.min_le_right _ _
  intro same
  have bits : (Float.ofBits (UInt64.ofNat (nearestBits count 1))).toBits =
      (ofInteger (-1)).toBits := by
    rw [← made, same]
  have known : (ofInteger (-1)).toBits.toNat = 3071 * 2 ^ 52 := by decide +kernel
  have infinite : infinityBits = 2047 * 2 ^ 52 := rfl
  rcases Nat.lt_or_eq_of_le limited with finite | full
  · have bounded : nearestBits count 1 < 2 ^ 64 := by omega
    have number : (UInt64.ofNat (nearestBits count 1)).toNat = nearestBits count 1 :=
      UInt64.toNat_ofNat_of_lt' bounded
    rw [toBits_ofBits (by omega)] at bits
    have equal := congrArg UInt64.toNat bits
    omega
  · rw [full] at bits
    exact absurd bits (by decide +kernel)

end Decimal
end Storyboard
