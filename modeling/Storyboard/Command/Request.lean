import Storyboard.Command.Completion

/-!
# The command that issues a request

`HttpRequest.request` drafts a request from its payload and issues it.  A request
that cannot be drafted ends at once, without a word if its address is at fault.
-/

namespace Storyboard
namespace Command

/-- The path to which the body of the response is to be written. -/
def target? : Node → Option String
  | .string path => if path = "" then none else some path
  | _ => none

/-- Issue a request that was drafted.  One that could not be drafted ends at once. -/
def dispatch (frame : Frame) (pending : Web.Pending) :
    Except Web.RequestError Web.Request → Session → Option Session
  | .ok request, session => some (session.issue request pending)
  | .error error, session =>
      if error.isSilent then some session else frame.complete pending (.error error) session

/-- Draft the request that a payload describes, and issue it with a target for its response. -/
def requestTo (frame : Frame) (payload : Node) (target : Node) (session : Session) :
    Option Session :=
  let (drafted, session) := frame.rules.draft (frame.evaluateField payload) session
  dispatch frame ⟨.ofPayload payload, target? target, frame.index⟩ drafted session

/-- Issue the request that a payload describes. -/
def request : Command := fun frame payload session =>
  match payload with
  | .mapping _ =>
      let (target, session) := frame.evaluateField payload "var" session
      requestTo frame payload target session
  | _ => some session

end Command
end Storyboard
