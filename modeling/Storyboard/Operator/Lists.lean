import Storyboard.Node.Writer
import Storyboard.Operator.Operands

/-!
# Operators on lists

The operators named `Array`.  A list is searched by the texts of its items for
readers, so that `1` is found in a list of `"1"`.
-/

namespace Storyboard
namespace Operator
namespace Lists

/-- The position of the item whose text for readers is that of the needle.  Nothing is returned
unless the operands are a list and a needle. -/
def position? (input : Node) : Option (Option Nat) :=
  match operands input with
  | [.sequence items, needle] => some (items.findIdx? fun item => item.display == needle.display)
  | _ => none

/-- The position of a needle in a list, or -1. -/
def indexOf (input : Node) : Node :=
  match position? input with
  | some (some position) => .ofNat position
  | some none => .number (Decimal.ofInteger (-1))
  | none => .null

/-- Whether a list holds a needle. -/
def contains (input : Node) : Node :=
  match position? input with
  | some found => .bool found.isSome
  | none => .bool false

/-- The length of a sequence. -/
def count : Node → Node
  | .sequence items => .ofNat items.length
  | _ => .null

/-- The operators on lists. -/
def table : List (String × Operator) :=
  [("Array.indexOf", pure indexOf),
   ("Array.contains", pure contains),
   ("Array.count", pure count)]

end Lists
end Operator
end Storyboard
