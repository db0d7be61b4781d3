import Mathlib.Algebra.Ring.Int.Defs
import Storyboard.Json.Tree

/-!
# Whole numbers written and read

A whole number that fits 64 bits is read as it was written, if what follows does not go
on with it.
-/

namespace Storyboard
namespace Json

/-- What follows a number does not go on with it. -/
def EndsNumber (rest : List Char) : Prop :=
  ∀ c ∈ rest.head?, isDigit c = false ∧ c ≠ '.' ∧ c ≠ 'e' ∧ c ≠ 'E'

theorem endsNumber_nil : EndsNumber [] := by
  simp [EndsNumber]

theorem endsNumber_cons
    {c : Char}
    (other : isDigit c = false ∧ c ≠ '.' ∧ c ≠ 'e' ∧ c ≠ 'E')
    (rest : List Char) :
    EndsNumber (c :: rest) := by
  intro first isFirst
  obtain rfl : c = first := by simpa using isFirst
  exact other

/-! ## Digits -/

section Digits

variable {digits rest : List Char}

theorem leadingDigits_of_endsNumber (ends : EndsNumber rest) : leadingDigits rest = [] := by
  cases rest with
  | nil => rfl
  | cons c rest => simp [leadingDigits, (ends c rfl).1]

theorem leadingDigits_append
    (all : ∀ c ∈ digits, isDigit c = true)
    (ends : EndsNumber rest) :
    leadingDigits (digits ++ rest) = digits := by
  have none : rest.takeWhile isDigit = [] := leadingDigits_of_endsNumber ends
  rw [leadingDigits, List.takeWhile_append_of_pos all, none, List.append_nil]

theorem afterDigits_append
    (all : ∀ c ∈ digits, isDigit c = true)
    (ends : EndsNumber rest) :
    afterDigits (digits ++ rest) = rest := by
  rw [afterDigits, List.dropWhile_append_of_pos all]
  cases rest with
  | nil => rfl
  | cons c rest => simp [(ends c rfl).1]

/-- Digits are read up to where a number ends. -/
theorem someDigits_append
    (nonempty : digits ≠ [])
    (all : ∀ c ∈ digits, isDigit c = true)
    (ends : EndsNumber rest) :
    someDigits (digits ++ rest) = .ok (digits, rest) := by
  unfold someDigits
  rw [leadingDigits_append all ends, afterDigits_append all ends]
  cases digits with
  | nil => exact absurd rfl nonempty
  | cons c others => rfl

/-- A run of digits that starts with no zero is the whole part of a number. -/
theorem wholeDigits_append
    (nonempty : digits ≠ [])
    (all : ∀ c ∈ digits, isDigit c = true)
    (significant : digits.head? ≠ some '0')
    (ends : EndsNumber rest) :
    wholeDigits (digits ++ rest) = .ok (digits, rest) := by
  cases digits with
  | nil => exact absurd rfl nonempty
  | cons c others =>
      have other : c ≠ '0' := by simpa using significant
      rw [← someDigits_append nonempty all ends]
      simp [wholeDigits, other]

/-- Digits whose number fits 64 bits are all taken. -/
theorem gather_of_lt
    {whole : Nat}
    (fits : Nat.ofDigitChars 10 digits whole < wholeBound) :
    gather whole digits = (Nat.ofDigitChars 10 digits whole, []) := by
  induction digits generalizing whole with
  | nil => simp [gather]
  | cons c others inductionHypothesis =>
      rw [Nat.ofDigitChars_cons, Nat.mul_comm] at fits
      have grows : whole * 10 + (c.toNat - '0'.toNat) ≤
          Nat.ofDigitChars 10 others (whole * 10 + (c.toNat - '0'.toNat)) := by
        rw [Nat.ofDigitChars_eq_ofDigitChars_zero]
        have scaled : whole * 10 + (c.toNat - '0'.toNat) ≤
            10 ^ others.length * (whole * 10 + (c.toNat - '0'.toNat)) :=
          Nat.le_mul_of_pos_left _ (Nat.pow_pos (by decide))
        omega
      rw [gather, if_pos (by omega), inductionHypothesis fits, Nat.ofDigitChars_cons, Nat.mul_comm]

end Digits

/-! ## Decimal texts -/

theorem isDigit_of_mem_natChars
    {n : Nat}
    {c : Char}
    (member : c ∈ Decimal.natChars n) :
    isDigit c = true := by
  have digit : c.isDigit = true := Nat.isDigit_of_mem_toDigits (by decide) (by decide) member
  simpa [isDigit, Char.isDigit, Char.le_def, UInt32.le_iff_toNat_le] using digit

theorem exists_natChars_eq_cons (n : Nat) :
    ∃ c text, Decimal.natChars n = c :: text ∧ isDigit c = true := by
  obtain ⟨c, text, written⟩ :=
    List.exists_cons_of_ne_nil (Nat.toDigits_ne_nil (n := n) (b := 10))
  exact ⟨c, text, written, isDigit_of_mem_natChars (n := n) (by simp [Decimal.natChars, written])⟩

/-- A whole number starts with its sign or with a digit. -/
theorem exists_intChars_eq_cons (whole : Int) :
    ∃ c text, Decimal.intChars whole = c :: text ∧ (c = '-' ∨ isDigit c = true) := by
  cases whole with
  | ofNat n =>
      obtain ⟨c, text, written, digit⟩ := exists_natChars_eq_cons n
      exact ⟨c, text, written, .inr digit⟩
  | negSucc n => exact ⟨'-', Decimal.natChars (n + 1), rfl, .inl rfl⟩

/-- Only zero is written with a zero in front. -/
theorem head?_natChars
    {n : Nat}
    (positive : 0 < n) :
    (Decimal.natChars n).head? ≠ some '0' := by
  unfold Decimal.natChars
  induction n using Nat.base_induction 10 (by decide) with
  | single digit small =>
      have nonzero : ∀ digit < 10, 0 < digit → [Nat.digitChar digit].head? ≠ some '0' := by decide
      rw [Nat.toDigits_of_lt_base small]
      exact nonzero digit small positive
  | digit front last small frontPositive inductionHypothesis =>
      obtain ⟨c, others, written⟩ :=
        List.exists_cons_of_ne_nil (Nat.toDigits_ne_nil (n := front) (b := 10))
      rw [← Nat.toDigits_append_toDigits (by decide) frontPositive small, written]
      simpa [written] using inductionHypothesis frontPositive

theorem wholeDigits_natChars
    (n : Nat)
    {rest : List Char}
    (ends : EndsNumber rest) :
    wholeDigits (Decimal.natChars n ++ rest) = .ok (Decimal.natChars n, rest) := by
  rcases Nat.eq_zero_or_pos n with rfl | positive
  · simp [Decimal.natChars, wholeDigits, leadingDigits_of_endsNumber ends]
  · exact wholeDigits_append Nat.toDigits_ne_nil (fun c => isDigit_of_mem_natChars)
      (head?_natChars positive) ends

theorem fraction_of_endsNumber
    {rest : List Char}
    (ends : EndsNumber rest) :
    fraction rest = .ok ([], rest) := by
  cases rest with
  | nil => rfl
  | cons c rest => simp [fraction, (ends c rfl).2.1]

theorem exponent_of_endsNumber
    {rest : List Char}
    (ends : EndsNumber rest) :
    exponent rest = .ok (none, rest) := by
  cases rest with
  | nil => rfl
  | cons c rest => simp [exponent, (ends c rfl).2.2]

/-- The digits of a whole number are read as that number, with the sign that stands before them. -/
theorem magnitude_natChars
    (negative : Bool)
    {n : Nat}
    (fits : n < wholeBound)
    (signed : negative = true → 0 < n ∧ n ≤ Nat.pow 2 63)
    {rest : List Char}
    (ends : EndsNumber rest) :
    magnitude negative (Decimal.natChars n ++ rest) =
      .ok (.integer (if negative then -(n : Int) else n), rest) := by
  have value : Nat.ofDigitChars 10 (Decimal.natChars n) 0 = n := Nat.ofDigitChars_ten_toDigits
  have taken : gather 0 (Decimal.natChars n) = (n, []) := by
    rw [gather_of_lt (by rwa [value]), value]
  have read : numberOf negative (Decimal.natChars n) [] none =
      .ok (.integer (if negative then -(n : Int) else n)) := by
    simp only [numberOf, taken]
    rw [if_pos ⟨trivial, trivial, trivial, signed⟩]
  unfold magnitude
  rw [wholeDigits_natChars n ends]
  simp only [bind, Except.bind, fraction_of_endsNumber ends, exponent_of_endsNumber ends, read]
  rfl

/-- A whole number from `-2^63` up to `2^64 - 1` is read as it was written. -/
theorem number_intChars
    {whole : Int}
    (low : -(2 ^ 63 : Int) ≤ whole)
    (high : whole < (2 ^ 64 : Int))
    {rest : List Char}
    (ends : EndsNumber rest) :
    number (Decimal.intChars whole ++ rest) = .ok (.integer whole, rest) := by
  cases whole with
  | ofNat n =>
      have fits : n < wholeBound := by
        have bound : ((n : Nat) : Int) < 2 ^ 64 := high
        exact_mod_cast bound
      have unsigned : ∀ text, Decimal.natChars n ++ rest ≠ '-' :: text := by
        intro text same
        obtain ⟨c, others, written, digit⟩ := exists_natChars_eq_cons n
        rw [written] at same
        rw [(List.cons.inj same).1] at digit
        exact absurd digit (by decide)
      rw [Decimal.intChars, number]
      · exact magnitude_natChars false fits (by simp) ends
      · exact unsigned
  | negSucc n =>
      have fits : n + 1 ≤ Nat.pow 2 63 := by
        have bound : -(2 ^ 63 : Int) ≤ Int.negSucc n := low
        rw [Int.negSucc_eq] at bound
        have := Int.neg_le_neg_iff.mp bound
        exact_mod_cast this
      have small : n + 1 < wholeBound := Nat.lt_of_le_of_lt fits (by decide)
      exact magnitude_natChars true small (fun _ => ⟨Nat.succ_pos n, fits⟩) ends

end Json
end Storyboard
