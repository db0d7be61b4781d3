import Storyboard.Json.Reader
import Storyboard.Json.Writer

/-!
# Texts written and read

Between quotes every text is read as it was written, controls and quotes inside it
included.
-/

namespace Storyboard
namespace Json

/-- The hexadecimal digits of a number are read as that number. -/
theorem hexDigit?_hexChar {n : Nat} (small : n < 16) : hexDigit? (hexChar n) = some n := by
  have each : ∀ n < 16, hexDigit? (hexChar n) = some n := by decide
  exact each n small

/-- The four digits that name a control are read as its number. -/
theorem hexQuad?_control {n : Nat} (control : n < 0x20) :
    hexQuad? '0' '0' (hexChar (n / 16)) (hexChar (n % 16)) = some n := by
  have high := hexDigit?_hexChar (n := n / 16) (by omega)
  have low := hexDigit?_hexChar (n := n % 16) (Nat.mod_lt n (by decide))
  have zero : hexDigit? '0' = some 0 := by decide
  simp only [hexQuad?, zero, high, low, Option.some.injEq]
  omega

/-- A control that is named by its number is read. -/
theorem quotedChars_control
    {n : Nat}
    (control : n < 0x20)
    (rest : List Char) :
    quotedChars ('\\' :: 'u' :: '0' :: '0' :: hexChar (n / 16) :: hexChar (n % 16) :: rest) =
      before (Char.ofNat n) (quotedChars rest) := by
  have noLow : isLowUnit n = false := by simp [isLowUnit]; omega
  have noHigh : isHighUnit n = false := by simp [isHighUnit]; omega
  rw [quotedChars]
  simp only [hexQuad?_control control, noLow, noHigh]
  rfl

/-- A character that needs no escape stands for itself. -/
theorem quotedChars_plain
    {c : Char}
    (noQuote : c ≠ '"')
    (noEscape : c ≠ '\\')
    (noControl : ¬ c.toNat < 0x20)
    (rest : List Char) :
    quotedChars (c :: rest) = before c (quotedChars rest) := by
  rw [quotedChars.eq_def]
  split
  · next impossible => cases impossible
  · next same => exact absurd (List.cons.inj same).1 noQuote
  · next same => exact absurd (List.cons.inj same).1 noEscape
  · next same => exact absurd (List.cons.inj same).1 noEscape
  · next same => exact absurd (List.cons.inj same).1 noEscape
  · next same => exact absurd (List.cons.inj same).1 noEscape
  · next same =>
    obtain ⟨rfl, rfl⟩ := List.cons.inj same
    rw [if_neg noControl]

/-- What is written for a character is read as that character. -/
theorem quotedChars_writtenChar_append
    (c : Char)
    (rest : List Char) :
    quotedChars (writtenChar c ++ rest) = before c (quotedChars rest) := by
  unfold writtenChar
  split
  · next same => subst same; rfl
  split
  · next same => subst same; rfl
  split
  · next same => subst same; rfl
  split
  · next same => subst same; rfl
  split
  · next same => subst same; rfl
  split
  · next same => subst same; rfl
  split
  · next same => subst same; rfl
  split
  · next control =>
    have named := quotedChars_control control rest
    rw [Char.ofNat_toNat] at named
    exact named
  · next noQuote noEscape _ _ _ _ _ noControl =>
    exact quotedChars_plain noQuote noEscape noControl rest

/-- What is written for characters is read up to the closing quote. -/
theorem quotedChars_flatMap_writtenChar
    (chars rest : List Char) :
    quotedChars (chars.flatMap writtenChar ++ '"' :: rest) = .ok (chars, rest) := by
  induction chars with
  | nil => rfl
  | cons c chars inductionHypothesis =>
      rw [List.flatMap_cons, List.append_assoc, quotedChars_writtenChar_append,
        inductionHypothesis]
      rfl

/-- A text is read as it was written, from after its opening quote on. -/
theorem quoted_written
    (text : String)
    (rest : List Char) :
    quoted (text.toList.flatMap writtenChar ++ '"' :: rest) = .ok (text, rest) := by
  unfold quoted
  rw [quotedChars_flatMap_writtenChar]
  simp

end Json
end Storyboard
