import Storyboard.Command

/-!
# Commands on variables

`set` and `setAtPath` write the evaluated field `value` at a path that stands as it is
in another field.  A write that fails changes nothing.
-/

namespace Storyboard
namespace Command

/-- Write a value at the path in a field. -/
def assignAt (key : String) : Command := fun frame payload session =>
  match (payload.get? key).bind Node.asString? with
  | none => some session
  | some path =>
      let (value, session) := frame.evaluateField payload "value" session
      (session.assign frame.evaluator frame.bound frame.index path value).map Prod.snd

end Command
end Storyboard
