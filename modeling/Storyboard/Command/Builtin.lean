import Storyboard.Command.Control
import Storyboard.Command.Records
import Storyboard.Command.Request
import Storyboard.Command.Screens
import Storyboard.Command.Variables

/-!
# The built-in commands
-/

namespace Storyboard
namespace Command

/-- The built-in commands by name. -/
def builtin : List (String × Command) :=
  [("set", assignAt "var"),
   ("setAtPath", assignAt "path"),
   ("sequence", inSequence),
   ("if", branch),
   ("navigate", navigate),
   ("pop", pop),
   ("popToRoot", popToRoot),
   ("Storage.set", store),
   ("log", log),
   ("HttpRequest.request", request)]

end Command
end Storyboard
