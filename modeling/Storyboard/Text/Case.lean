import Storyboard.Text.CaseTable

/-!
# Upper and lower case

Full case mapping without regard to language.  A character may become several;
a capital sigma becomes a final one at the end of a word.
-/

namespace Storyboard
namespace Text

/-- The image of a character under sequences first and single steps second. -/
def mapCase (sequences : List (Nat × List Nat)) (rows : List CaseStep) (c : Char) : List Char :=
  match sequences.lookup c.toNat with
  | some images => images.map Char.ofNat
  | none =>
      match mapped? rows c.toNat with
      | some image => [Char.ofNat image]
      | none => [c]

/-- The upper case of a character. -/
def upperChar (c : Char) : List Char := mapCase upperSequences upperSteps c

/-- The lower case of a character, where its neighbours do not matter. -/
def lowerChar (c : Char) : List Char := mapCase lowerSequences lowerSteps c

/-- Whether a character has the property Cased. -/
def isCased (c : Char) : Bool := covered casedSpans c.toNat

/-- Whether a character has the property Case_Ignorable. -/
def isCaseIgnorable (c : Char) : Bool := covered caseIgnorableSpans c.toNat

/-- Whether the first character that is not case-ignorable is cased. -/
def startsCased (chars : List Char) : Bool :=
  match chars.dropWhile isCaseIgnorable with
  | c :: _ => isCased c
  | [] => false

/-- The upper case of a text. -/
def upper (chars : List Char) : List Char :=
  chars.flatMap upperChar

/-- The lower case of a text, given the characters before it, the nearest first. -/
def lowerAfter : List Char → List Char → List Char
  | _, [] => []
  | before, c :: rest =>
      let image :=
        if c = 'Σ' then
          if startsCased before && !startsCased rest then ['ς'] else ['σ']
        else lowerChar c
      image ++ lowerAfter (c :: before) rest

/-- The lower case of a text. -/
def lower (chars : List Char) : List Char :=
  lowerAfter [] chars

end Text
end Storyboard
