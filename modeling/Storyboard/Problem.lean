import Storyboard.Node.Writer

/-!
# Problems

What is said when something outside a session goes wrong.
-/

namespace Storyboard

/-- Something that went wrong outside a session. -/
inductive Problem where
  /-- Anything, in words. -/
  | general (text : String)
  /-- A number that has no digits. -/
  | number (value : Float)

/-- What is said of a problem. -/
def Problem.message : Problem → String
  | .general text => "Generic error: " ++ text
  | .number value => "Node error: " ++ Node.noDigitsMessage value

end Storyboard
