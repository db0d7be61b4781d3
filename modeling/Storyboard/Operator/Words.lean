import Storyboard.Node.Writer
import Storyboard.Operator.Operands
import Storyboard.Text.Blank
import Storyboard.Text.Case

/-!
# Operators on texts

The operators named `String`.  Positions and lengths count characters.
-/

namespace Storyboard
namespace Operator
namespace Words

/-- Apply a function to the only operand, which must be a text. -/
def onText (f : String → Node) (input : Node) : Node :=
  match operand input with
  | .string text => f text
  | _ => .null

/-- The texts of the operands for readers, one after another; `null` is left out. -/
def concat (input : Node) : Node :=
  .string (String.join (((operands input).filter fun part => !part.isNull).map Node.display))

/-- Where the second text first occurs in the first: a position, or -1. -/
def indexOf (input : Node) : Node :=
  match operands input with
  | [.string source, .string search] =>
      match Text.position? search.toList source.toList with
      | some position => .ofNat position
      | none => .number (Decimal.ofInteger (-1))
  | _ => .null

/-- The characters of a text from a start on, at most a length of them; none where the start lies
outside the text or the length is negative. -/
def slice (source : List Char) (start : Int) (length : Option Int) : List Char :=
  let count : Int := source.length
  if start < 0 ∨ count < start ∨ length.getD 0 < 0 then []
  else (source.drop start.toNat).take (min (length.getD (count - start)) (count - start)).toNat

/-- A part of a text: the text, where the part starts, and perhaps how long it is. -/
def substring (input : Node) : Node :=
  match operands input with
  | .string source :: first :: rest =>
      match integer? first, rest with
      | some start, [] => .string (String.ofList (slice source.toList start none))
      | some start, second :: _ =>
          match integer? second with
          | some length => .string (String.ofList (slice source.toList start (some length)))
          | none => .null
      | none, _ => .null
  | _ => .null

/-- The operators on texts. -/
def table : List (String × Operator) :=
  [("String.trim", pure (onText fun text => .string (Text.trim text))),
   ("String.uppercase",
     pure (onText fun text => .string (String.ofList (Text.upper text.toList)))),
   ("String.lowercase",
     pure (onText fun text => .string (String.ofList (Text.lower text.toList)))),
   ("String.length", pure (onText fun text => .ofNat text.toList.length)),
   ("String.concat", pure concat),
   ("String.indexOf", pure indexOf),
   ("String.substring", pure substring)]

end Words
end Operator
end Storyboard
