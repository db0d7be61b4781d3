import Storyboard.Command

/-!
# Commands that keep records

`Storage.set` stores a value for later sessions, and `log` logs a line.
-/

namespace Storyboard
namespace Command

/-- Store the evaluated field `value` under a key, a text that is not empty. -/
def storeUnder (frame : Frame) (payload : Node) (key : Node) (session : Session) :
    Option Session :=
  match key with
  | .string key =>
      if key = "" then some session
      else
        let (value, session) := frame.evaluateField payload "value" session
        some (session.store key value)
  | _ => some session

/-- Store the evaluated field `value` under the evaluated field `key`. -/
def store : Command := fun frame payload session =>
  let (key, session) := frame.evaluateField payload "key" session
  storeUnder frame payload key session

/-- Log the evaluated payload. -/
def log : Command := fun frame payload session =>
  let (message, session) := frame.evaluate payload session
  some (session.log message.display)

end Command
end Storyboard
