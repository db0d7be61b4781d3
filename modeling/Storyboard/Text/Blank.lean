import Storyboard.Text.Spans

/-!
# Blank characters

The characters with the property White_Space, and texts without them at either
end.
-/

namespace Storyboard
namespace Text

/-- The spans of the property White_Space. -/
def blankSpans : List Span :=
  [(0x09, 0x0d), (0x20, 0x20), (0x85, 0x85), (0xa0, 0xa0), (0x1680, 0x1680), (0x2000, 0x200a),
   (0x2028, 0x2029), (0x202f, 0x202f), (0x205f, 0x205f), (0x3000, 0x3000)]

/-- Whether a character is blank. -/
def isBlank (c : Char) : Bool :=
  covered blankSpans c.toNat

/-- The characters between the first and the last that do not satisfy a condition. -/
def strip (drop : Char → Bool) (chars : List Char) : List Char :=
  ((chars.dropWhile drop).reverse.dropWhile drop).reverse

/-- A text without the blanks at its ends. -/
def trim (text : String) : String :=
  String.ofList (strip isBlank text.toList)

/-- Whether a text holds nothing but blanks. -/
def isBlankText (text : String) : Bool :=
  text.toList.all isBlank

end Text
end Storyboard
