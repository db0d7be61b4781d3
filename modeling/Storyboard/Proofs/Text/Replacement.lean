import Mathlib.Data.List.Infix
import Storyboard.Text.Search

/-!
# Replacing text

A text is cut at the first occurrence of a pattern, the image goes there, and the same is done
to what follows the occurrence.  So the occurrences are replaced from left to right and without
overlap, and an image is never searched.
-/

namespace Storyboard
namespace Text

variable {pattern image : List Char}

/-- A pattern occurs in a text; the empty pattern occurs nowhere. -/
def Occurs (pattern text : List Char) : Prop :=
  pattern ≠ [] ∧ pattern <:+: text

instance (pattern text : List Char) : Decidable (Occurs pattern text) :=
  inferInstanceAs (Decidable (_ ∧ _))

/-- A text and what becomes of it when a pattern is replaced from left to right. -/
inductive Replaced (pattern image : List Char) : List Char → List Char → Prop
  /-- Where the pattern does not occur the text stays. -/
  | absent
      {text : List Char}
      (absent : ¬ Occurs pattern text) :
      Replaced pattern image text text
  /-- At the first occurrence the image stands, and what follows is replaced in its turn. -/
  | first
      {before rest result : List Char}
      (nonempty : pattern ≠ [])
      (leftmost : ¬ Occurs pattern (before ++ pattern.dropLast))
      (later : Replaced pattern image rest result) :
      Replaced pattern image (before ++ pattern ++ rest) (before ++ image ++ result)

/-- Nothing occurs in a text that is shorter. -/
theorem not_occurs_of_length_lt
    {text : List Char}
    (shorter : text.length < pattern.length) :
    ¬ Occurs pattern text :=
  fun occurs => Nat.not_le.mpr shorter occurs.2.length_le

/-- What occurs in a text with one more character in front is a prefix of it or occurs behind. -/
theorem occurs_cons_iff
    {c : Char}
    {text : List Char} :
    Occurs pattern (c :: text) ↔ (pattern ≠ [] ∧ pattern <+: c :: text) ∨ Occurs pattern text := by
  rw [Occurs, Occurs, List.infix_cons_iff, and_or_left]

/-- The text up to the last character but one of an occurrence is a prefix of the whole text. -/
theorem append_dropLast_prefix
    (pattern before rest : List Char) :
    before ++ pattern.dropLast <+: before ++ pattern ++ rest := by
  rw [List.append_assoc, List.prefix_append_right_inj]
  exact (List.dropLast_prefix pattern).trans (List.prefix_append pattern rest)

/-- A pattern does not stand before its first occurrence. -/
theorem not_prefix_of_leftmost
    {before rest : List Char}
    {c : Char}
    (nonempty : pattern ≠ [])
    (leftmost : ¬ Occurs pattern (c :: before ++ pattern.dropLast)) :
    ¬ pattern <+: c :: before ++ pattern ++ rest := by
  intro stands
  have covers : pattern.length ≤ (c :: before ++ pattern.dropLast).length := by
    simp only [List.cons_append, List.length_cons, List.length_append, List.length_dropLast]
    omega
  have opening := append_dropLast_prefix pattern (c :: before) rest
  exact leftmost ⟨nonempty, (List.prefix_of_prefix_length_le stands opening covers).isInfix⟩

/-! ## The function replaces from left to right -/

theorem replaceFrom_length_append
    (passed rest : List Char) :
    replaceFrom pattern image passed.length (passed ++ rest) =
      replaceFrom pattern image 0 rest := by
  induction passed with
  | nil => rfl
  | cons c passed inductionHypothesis => exact inductionHypothesis

theorem replaceFrom_pattern_append
    (nonempty : pattern ≠ [])
    (rest : List Char) :
    replaceFrom pattern image 0 (pattern ++ rest) =
      image ++ replaceFrom pattern image 0 rest := by
  obtain ⟨c, others, rfl⟩ := List.exists_cons_of_ne_nil nonempty
  have stands : (c :: others).isPrefixOf (c :: (others ++ rest)) = true :=
    List.isPrefixOf_iff_prefix.mpr (List.prefix_append (c :: others) rest)
  rw [List.cons_append, replaceFrom, if_pos stands]
  exact congrArg (image ++ ·) (replaceFrom_length_append others rest)

theorem replaceFrom_cons
    {c : Char}
    {text : List Char}
    (absent : ¬ pattern <+: c :: text) :
    replaceFrom pattern image 0 (c :: text) = c :: replaceFrom pattern image 0 text := by
  rw [replaceFrom, if_neg (mt List.isPrefixOf_iff_prefix.mp absent)]

/-- Only one text comes from a text by replacing from left to right. -/
theorem Replaced.eq_replaceFrom
    {text result : List Char}
    (nonempty : pattern ≠ [])
    (replaced : Replaced pattern image text result) :
    result = replaceFrom pattern image 0 text := by
  induction replaced with
  | @absent text absent =>
      induction text with
      | nil => rfl
      | cons c text inductionHypothesis =>
          rw [occurs_cons_iff, not_or] at absent
          rw [replaceFrom_cons fun stands => absent.1 ⟨nonempty, stands⟩,
            ← inductionHypothesis absent.2]
  | @first before rest result _ leftmost _ sameRest =>
      induction before with
      | nil => rw [List.nil_append, List.nil_append, replaceFrom_pattern_append nonempty, sameRest]
      | cons c before inductionHypothesis =>
          have behind := (not_or.mp (mt occurs_cons_iff.mpr leftmost)).2
          have stays : replaceFrom pattern image 0 (c :: (before ++ pattern ++ rest)) =
              c :: replaceFrom pattern image 0 (before ++ pattern ++ rest) :=
            replaceFrom_cons (not_prefix_of_leftmost nonempty leftmost)
          rw [← inductionHypothesis behind] at stays
          exact stays.symm

/-- One more character stays in front where the pattern does not begin with it. -/
theorem Replaced.cons
    {c : Char}
    {text result : List Char}
    (absent : ¬ pattern <+: c :: text)
    (replaced : Replaced pattern image text result) :
    Replaced pattern image (c :: text) (c :: result) := by
  cases replaced with
  | absent behind =>
      refine .absent fun occurs => ?_
      exact (occurs_cons_iff.mp occurs).elim (fun stands => absent stands.2) behind
  | @first before rest result nonempty leftmost later =>
      have stillLeftmost : ¬ Occurs pattern (c :: before ++ pattern.dropLast) := by
        intro occurs
        have opening := append_dropLast_prefix pattern (c :: before) rest
        exact (occurs_cons_iff.mp occurs).elim
          (fun stands => absent (stands.2.trans opening)) leftmost
      exact .first nonempty stillLeftmost later

/-- Every text can be replaced from left to right, and the function does. -/
theorem replaced_replaceFrom
    (nonempty : pattern ≠ [])
    (text : List Char) :
    Replaced pattern image text (replaceFrom pattern image 0 text) := by
  induction size : text.length using Nat.strong_induction_on generalizing text with
  | _ size inductionHypothesis =>
      subst size
      cases text with
      | nil => exact .absent (not_occurs_of_length_lt (List.length_pos_iff.mpr nonempty))
      | cons c text =>
          by_cases stands : pattern <+: c :: text
          · obtain ⟨rest, same⟩ := stands
            have shorter : rest.length < (c :: text).length := by
              have positive := List.length_pos_iff.mpr nonempty
              rw [← same, List.length_append]
              omega
            have atOnce : ¬ Occurs pattern ([] ++ pattern.dropLast) := by
              refine not_occurs_of_length_lt ?_
              have positive := List.length_pos_iff.mpr nonempty
              rw [List.nil_append, List.length_dropLast]
              omega
            have later := inductionHypothesis rest.length shorter rest rfl
            rw [← same, replaceFrom_pattern_append nonempty]
            exact .first nonempty atOnce later
          · rw [replaceFrom_cons stands]
            exact .cons stands (inductionHypothesis text.length (Nat.lt_succ_self _) text rfl)

/-- Nothing is replaced for the empty pattern. -/
theorem replaced_nil_iff
    {text result : List Char} :
    Replaced [] image text result ↔ result = text := by
  constructor
  · intro replaced
    cases replaced with
    | absent => rfl
    | first nonempty => exact absurd rfl nonempty
  · rintro rfl
    exact .absent fun occurs => occurs.1 rfl

/-- The function returns the one text that comes from replacing from left to right. -/
theorem replaced_iff
    {pattern image text result : String} :
    Replaced pattern.toList image.toList text.toList result.toList ↔
      result = replaceAll pattern image text := by
  unfold replaceAll
  split
  · next empty => rw [empty, replaced_nil_iff, String.toList_inj]
  · next nonempty =>
      constructor
      · intro replaced
        rw [← replaced.eq_replaceFrom nonempty, String.ofList_toList]
      · rintro rfl
        rw [String.toList_ofList]
        exact replaced_replaceFrom nonempty text.toList

/-- A text in which the pattern does not occur stays as it is. -/
theorem replaceAll_of_not_occurs
    {pattern text : String}
    (absent : ¬ Occurs pattern.toList text.toList)
    (image : String) :
    replaceAll pattern image text = text :=
  (replaced_iff.mp (.absent absent)).symm

end Text
end Storyboard
