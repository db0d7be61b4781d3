import Storyboard.Command

/-!
# Commands that run commands

`sequence` runs the commands of a list, and `if` handles one of two events.
-/

namespace Storyboard
namespace Command

/-- Run the commands of a list. -/
def inSequence : Command := fun frame payload session =>
  match payload with
  | .sequence commands => frame.runAll commands session
  | _ => some session

/-- Whether a node can be an event with an effect. -/
def isContainer : Node → Bool
  | .mapping _ => true
  | .sequence _ => true
  | _ => false

/-- Handle the event `then` or `else`, as the evaluated `condition` says. -/
def branch : Command := fun frame payload session =>
  match payload with
  | .mapping entries =>
      let (condition, session) := frame.evaluateField (.mapping entries) "condition" session
      let event := Table.get? entries (if condition.isTrue then "then" else "else")
      frame.handle? (event.filter isContainer) session
  | _ => some session

end Command
end Storyboard
