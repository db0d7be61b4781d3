import Storyboard.Operator.Arithmetic
import Storyboard.Operator.Lists
import Storyboard.Operator.Logic
import Storyboard.Operator.Words

/-!
# The built-in operators
-/

namespace Storyboard
namespace Operator

/-- The key that a read of the store asks for. -/
def storedKey? : Node → Option String
  | .string key => some key
  | .mapping entries => (Table.get? entries "key").bind Node.asString?
  | _ => none

/-- The stored value under a key; without one, `null`. -/
def stored : Operator := fun scope input =>
  Node.ofOption ((storedKey? input).bind (Table.get? scope.stored))

/-- The built-in operators by name. -/
def builtin : List (String × Operator) :=
  Arithmetic.table ++ Logic.table ++ Words.table ++ Lists.table ++ [("Storage.get", stored)]

end Operator
end Storyboard
