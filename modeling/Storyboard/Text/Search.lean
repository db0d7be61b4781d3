/-!
# Finding text in text

Where a text first holds another, and a text with every occurrence of another
replaced, from left to right and without overlap.
-/

namespace Storyboard
namespace Text

/-- The number of characters before the first occurrence of a pattern. -/
def position? (pattern : List Char) : List Char → Option Nat
  | [] => if pattern = [] then some 0 else none
  | c :: rest =>
      if pattern.isPrefixOf (c :: rest) then some 0
      else (position? pattern rest).map (· + 1)

/-- Replace the occurrences of a pattern, once a number of characters is passed over. -/
def replaceFrom (pattern image : List Char) : Nat → List Char → List Char
  | _, [] => []
  | skip + 1, _ :: rest => replaceFrom pattern image skip rest
  | 0, c :: rest =>
      if pattern.isPrefixOf (c :: rest) then
        image ++ replaceFrom pattern image (pattern.length - 1) rest
      else c :: replaceFrom pattern image 0 rest

/-- Replace the occurrences of a pattern; the empty pattern occurs nowhere. -/
def replaceAll (pattern image : String) (text : String) : String :=
  if pattern.toList = [] then text
  else String.ofList (replaceFrom pattern.toList image.toList 0 text.toList)

/-- The empty pattern occurs nowhere. -/
@[simp] theorem replaceAll_empty (image text : String) : replaceAll "" image text = text := by
  simp [replaceAll]

/-- A pattern is found at once where it stands. -/
theorem position?_append (pattern rest : List Char) :
    position? pattern (pattern ++ rest) = some 0 := by
  cases whole : pattern ++ rest with
  | nil => simp_all [position?]
  | cons c text =>
      have starts : pattern.isPrefixOf (c :: text) = true := by
        rw [← whole]
        exact List.isPrefixOf_iff_prefix.2 (List.prefix_append pattern rest)
      simp [position?, starts]

end Text
end Storyboard
