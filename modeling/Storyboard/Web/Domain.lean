import Storyboard.Text.Composition
import Storyboard.Web.Domain.Direction
import Storyboard.Web.Domain.Joining
import Storyboard.Web.Punycode

/-!
# Domains

A domain is a text of labels with full stops between them.  Its written form has plain
characters only: every character is replaced by its plain form, the text is composed,
and a label with characters beyond the first 128 is written in Punycode after `xn--`.
-/

namespace Storyboard
namespace Web
namespace Domain

/-- Characters that may not stand in a domain; controls may not either. -/
def barred : List Char :=
  [' ', '#', '%', '/', ':', '<', '>', '?', '@', '[', '\\', ']', '^', '|']

/-- Whether a character may not stand in a domain. -/
def isBarred (c : Char) : Bool :=
  c.toNat < 0x20 || c.toNat == 0x7f || barred.contains c

/-- Whether a character is one of the first 128. -/
def isPlain (c : Char) : Bool := c.toNat < 0x80

/-- The plain form of a text, in which full stops end labels. -/
def plain? (text : List Char) : Option (List Char) :=
  (text.mapM plainChar?).map fun forms => Text.composed forms.flatten

/-- A label as it is read and as it is written. -/
structure Label where
  /-- The characters that it shows. -/
  shown : List Char
  /-- The plain characters that stand for them. -/
  written : List Char

/-- The greatest number of characters in a label that is not plain. -/
def shownLimit : Nat := 1000

/-- The greatest number of characters in the Punycode of a label. -/
def writtenLimit : Nat := 2000

/-- Whether a label may show its characters. -/
def isFit (shown : List Char) : Bool :=
  !(shown.take 1).any Text.isMark && !shown.any isBarred && joinersFit [] shown &&
    (shown.all isPlain || shown.length ≤ shownLimit)

/-- The label that Punycode stands for: one in its plain form that is not all plain. -/
def decoded? (code : List Char) : Option (List Char) :=
  if code.length ≤ writtenLimit then
    (Punycode.decode code).filter fun shown =>
      !shown.all isPlain && !shown.contains '.' && plain? shown == some shown
  else none

/-- A label of a domain in its plain form. -/
def label? (label : List Char) : Option Label :=
  match label with
  | 'x' :: 'n' :: '-' :: '-' :: code =>
      (decoded? code).bind fun shown => if isFit shown then some ⟨shown, label⟩ else none
  | _ =>
      if !isFit label then none
      else if label.all isPlain then some ⟨label, label⟩
      else some ⟨label, ['x', 'n', '-', '-'] ++ Punycode.encode label⟩

/-- Whether labels may stand in one domain. -/
def agree (labels : List Label) : Bool :=
  !(labels.any fun label => runsBack label.shown) ||
    labels.all fun label => runsOneWay label.shown

/-- The written form of a domain that is not empty. -/
def written? (text : String) : Option (List Char) := do
  let labels ← (Text.splitAt '.' (← plain? text.toList)).mapM label?
  let domain := Text.joinWith ['.'] (labels.map Label.written)
  if domain = [] ∨ !agree labels then none else some domain

end Domain
end Web
end Storyboard
