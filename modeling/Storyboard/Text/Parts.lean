/-!
# Texts in parts

A text is split at each separator and put together again with separators between the
parts.  Joining what was split gives the text back.
-/

namespace Storyboard
namespace Text

/-- Split a text at every character of a kind. -/
def splitAt (separator : Char) : List Char → List (List Char)
  | [] => [[]]
  | c :: rest =>
      if c = separator then [] :: splitAt separator rest
      else
        match splitAt separator rest with
        | [] => [[c]]
        | part :: parts => (c :: part) :: parts

/-- Texts with a separator between them. -/
def joinWith (separator : List Char) : List (List Char) → List Char
  | [] => []
  | [part] => part
  | part :: parts => part ++ separator ++ joinWith separator parts

/-- A text has at least one part. -/
theorem splitAt_ne_nil (separator : Char) (text : List Char) : splitAt separator text ≠ [] := by
  cases text with
  | nil => simp [splitAt]
  | cons c rest =>
      simp only [splitAt]
      split
      · simp
      · split <;> simp

/-- Joining what was split gives the text back. -/
theorem joinWith_splitAt (separator : Char) (text : List Char) :
    joinWith [separator] (splitAt separator text) = text := by
  induction text with
  | nil => rfl
  | cons c rest ih =>
      have some := splitAt_ne_nil separator rest
      by_cases same : c = separator
      · simp only [splitAt, same, if_true]
        match parts : splitAt separator rest with
        | [] => exact absurd parts some
        | part :: others => rw [parts] at ih; simp [joinWith, ih]
      · simp only [splitAt, same, if_false]
        match parts : splitAt separator rest with
        | [] => exact absurd parts some
        | [part] => rw [parts] at ih; simpa [joinWith] using ih
        | part :: second :: others =>
            rw [parts] at ih
            simpa [joinWith] using ih

end Text
end Storyboard
