import Storyboard.Operator.Operands

/-!
# Arithmetic

The operators named `Math`.  Operands that are not numbers are left out; the others
are combined from left to right.
-/

namespace Storyboard
namespace Operator
namespace Arithmetic

/-- Combine the numbers among the operands; without any, and where a step fails, `null`. -/
def combine (step : Float → Float → Option Float) (input : Node) : Node :=
  match (operands input).filterMap Node.asNumber? with
  | [] => .null
  | first :: rest =>
      match rest.foldlM step first with
      | some result => .number result
      | none => .null

/-- A step that never fails. -/
def total (f : Float → Float → Float) (x y : Float) : Option Float := some (f x y)

/-- A step that fails where the second number is zero. -/
def nonzero (f : Float → Float → Float) (x y : Float) : Option Float :=
  if y == 0.0 then none else some (f x y)

/-- The operators on numbers. -/
def table : List (String × Operator) :=
  [("Math.add", pure (combine (total Float.add))),
   ("Math.subtract", pure (combine (total Float.sub))),
   ("Math.multiply", pure (combine (total Float.mul))),
   ("Math.divide", pure (combine (nonzero Float.div))),
   ("Math.mod", pure (combine (nonzero Decimal.remainder))),
   ("Math.min", pure (combine (total Decimal.lesser))),
   ("Math.max", pure (combine (total Decimal.greater)))]

end Arithmetic
end Operator
end Storyboard
