import Storyboard.Text.CombiningSpans
import Storyboard.Text.CompositeTable

/-!
# Composed text

The same text can be spelled with composites or with bases and marks.  A text is
composed by taking all composites apart, putting the marks of each base in the order
of their classes, and joining each mark to its base where there is a composite and no
mark of the same class lies between.  Syllables of Hangul are composites of their
letters by arithmetic.
-/

namespace Storyboard
namespace Text

/-- Pairs of characters from a row of bases and composites in turn. -/
def composites (mark : Char) : List Char → List (Char × Char × Char)
  | base :: composite :: rest => (base, mark, composite) :: composites mark rest
  | _ => []

/-- Every base, mark and composite that is no syllable. -/
def compositeTable : List (Char × Char × Char) :=
  (compositeRows.flatMap fun (mark, row) => composites (Char.ofNat mark) row.toList) ++
    compositeNumbers.map fun (base, mark, composite) =>
      (Char.ofNat base, Char.ofNat mark, Char.ofNat composite)

namespace Hangul

/-- The first syllable. -/
def syllables : Nat := 0xac00

/-- The first leading consonant. -/
def leads : Nat := 0x1100

/-- The first vowel. -/
def vowels : Nat := 0x1161

/-- The place before the first trailing consonant; a syllable may do without one. -/
def tails : Nat := 0x11a7

/-- Whether a number is less than a count of places away from a first one. -/
def within (first count code : Nat) : Bool := first ≤ code && code < first + count

/-- The syllable of a leading consonant and a vowel, or of a syllable and a trailing consonant. -/
def join? (base mark : Nat) : Option Nat :=
  if within leads 19 base && within vowels 21 mark then
    some (syllables + ((base - leads) * 21 + (mark - vowels)) * 28)
  else if within syllables 11172 base && (base - syllables) % 28 == 0 &&
      within (tails + 1) 27 mark then
    some (base + (mark - tails))
  else none

/-- The letters of a syllable. -/
def letters (syllable : Nat) : List Nat :=
  let index := syllable - syllables
  let tail := index % 28
  [leads + index / 588, vowels + index % 588 / 28] ++ if tail = 0 then [] else [tails + tail]

end Hangul

/-- The composite of a base and a mark, if there is one. -/
def join? (base mark : Char) : Option Char :=
  match Hangul.join? base.toNat mark.toNat with
  | some code => some (Char.ofNat code)
  | none =>
      (compositeTable.find? fun entry => entry.1 == base && entry.2.1 == mark).map (·.2.2)

/-- The base and the marks of a character that is made up in so many steps at most. -/
def takeApart : Nat → Char → List Char
  | 0, c => [c]
  | steps + 1, c =>
      if Hangul.within Hangul.syllables 11172 c.toNat then
        (Hangul.letters c.toNat).map Char.ofNat
      else
        match compositeTable.find? fun entry => entry.2.2 == c with
        | some (base, mark, _) => takeApart steps base ++ [mark]
        | none => [c]

/-- The greatest number of marks in a composite. -/
def compositeSteps : Nat := 3

/-- Put a character in front of an ordered text: a mark moves past marks of lower classes. -/
def settle (c : Char) : List Char → List Char
  | [] => [c]
  | d :: rest =>
      if 0 < combiningClass d ∧ combiningClass d < combiningClass c then d :: settle c rest
      else c :: d :: rest

/-- A text with the marks of each base in the order of their classes. -/
def ordered (text : List Char) : List Char := text.foldr settle []

/-- Whether a mark of a class reaches its base past the marks between, the last one first. -/
def reaches (between : List Char) (mark : Char) : Bool :=
  match between with
  | [] => true
  | last :: _ => combiningClass last < combiningClass mark

/-- Join what follows a base to it; `between` holds the marks that stay apart, the last one
first. -/
def joinMarks (base : Char) (between : List Char) : List Char → List Char
  | [] => base :: between.reverse
  | c :: rest =>
      match (if reaches between c then join? base c else none) with
      | some composite => joinMarks composite between rest
      | none =>
          if combiningClass c = 0 then base :: between.reverse ++ joinMarks c [] rest
          else joinMarks base (c :: between) rest

/-- Join the marks of an ordered text to their bases. -/
def joined : List Char → List Char
  | [] => []
  | c :: rest => if combiningClass c = 0 then joinMarks c [] rest else c :: joined rest

/-- The composed form of a text. -/
def composed (text : List Char) : List Char :=
  joined (ordered (text.flatMap (takeApart compositeSteps)))

/-- Settling a character loses nothing and adds nothing else. -/
theorem settle_perm (c : Char) (text : List Char) : (settle c text).Perm (c :: text) := by
  fun_induction settle c text with
  | case1 => rfl
  | case2 d rest _ ih => exact (ih.cons d).trans (List.Perm.swap c d rest)
  | case3 => rfl

/-- Ordering only moves characters. -/
theorem ordered_perm (text : List Char) : (ordered text).Perm text := by
  induction text with
  | nil => rfl
  | cons c rest ih => exact (settle_perm c (ordered rest)).trans (ih.cons c)

end Text
end Storyboard
