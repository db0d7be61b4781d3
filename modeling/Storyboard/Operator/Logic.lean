import Storyboard.Operator.Operands

/-!
# Logic

The operators named `Logic`, and the choice between two branches.  Only `true`
counts as true.
-/

namespace Storyboard
namespace Operator
namespace Logic

/-- Whether all operands equal the first; there must be at least two. -/
def allSame? : Node → Option Bool
  | .sequence (first :: second :: rest) =>
      some ((second :: rest).all fun item => Node.same item first)
  | _ => none

/-- A truth value that may be missing. -/
def ofBool? : Option Bool → Node
  | some value => .bool value
  | none => .null

/-- Compare two numbers; anything else compares as false. -/
def compare (holds : Float → Float → Bool) (input : Node) : Node :=
  match operands input with
  | [.number x, .number y] => .bool (holds x y)
  | _ => .bool false

/-- The branch of a mapping that its condition selects. -/
def choose : Node → Node
  | .mapping entries =>
      let condition := ((Table.get? entries "condition").map Node.isTrue).getD false
      Node.ofOption (Table.get? entries (if condition then "then" else "else"))
  | _ => .null

/-- The operators on truth values. -/
def table : List (String × Operator) :=
  [("Logic.eq", pure fun input => ofBool? (allSame? input)),
   ("Logic.neq", pure fun input => ofBool? ((allSame? input).map not)),
   ("Logic.and", pure fun input => .bool ((operands input).all Node.isTrue)),
   ("Logic.or", pure fun input => .bool ((operands input).any Node.isTrue)),
   ("Logic.not", pure fun input => .bool (!(operand input).isTrue)),
   ("Logic.gt", pure (compare fun x y => y < x)),
   ("Logic.gte", pure (compare fun x y => y ≤ x)),
   ("Logic.lt", pure (compare fun x y => x < y)),
   ("Logic.lte", pure (compare fun x y => x ≤ y)),
   ("Operator.if", pure choose)]

end Logic
end Operator
end Storyboard
