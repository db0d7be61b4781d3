import Storyboard.Expression

/-!
# The input of operators

Operators take several operands as a sequence and a single one as it is.
-/

namespace Storyboard
namespace Operator

/-- The operands: the items of a sequence, or the input itself. -/
def operands : Node → List Node
  | .sequence items => items
  | node => [node]

/-- The only operand: the item of a sequence of one, or the input itself. -/
def operand : Node → Node
  | .sequence [item] => item
  | node => node

/-- A finite number as a whole number, cut off toward zero. -/
def integer? (node : Node) : Option Int :=
  node.asNumber?.bind Decimal.truncate?

/-- An operator that sees its input only. -/
def pure (f : Node → Node) : Operator := fun _ input => f input

end Operator
end Storyboard
