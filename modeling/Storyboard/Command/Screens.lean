import Storyboard.Command

/-!
# Commands on screens

`navigate` opens a screen and handles its event, `pop` closes the top screen, and
`popToRoot` closes all.
-/

namespace Storyboard
namespace Command

/-- The name of the screen that a value stands for: a text that is not empty, or the text of a
number. -/
def screenId? : Node → Option String
  | .string id => if id = "" then none else some id
  | .number value => some (Node.number value).display
  | _ => none

/-- A screen that a value names has a name that is not empty. -/
theorem ne_empty_of_screenId? {value : Node} {id : String} (named : screenId? value = some id) :
    id ≠ "" := by
  rintro rfl
  unfold screenId? at named
  split at named
  · split at named <;> simp_all
  · next number =>
    have nothing := congrArg String.toList (Option.some.inj named)
    rw [Node.display, String.toList_ofList] at nothing
    exact Decimal.displayChars_ne_nil number nothing
  · cases named

/-- Open the screen that a value names, if it names one, and handle its event. -/
def enter (frame : Frame) (value : Node) (session : Session) : Option Session :=
  match screenId? value with
  | none => some session
  | some id => frame.handle? (session.onAppear? id) (session.push id)

/-- Open the screen that the evaluated payload names and handle its event. -/
def navigate : Command := fun frame payload session =>
  let (value, session) := frame.evaluate payload session
  enter frame value session

/-- Close the top screen. -/
def pop : Command := fun _ _ session =>
  some { session with navigation := session.navigation.pop }

/-- Close all screens above the root. -/
def popToRoot : Command := fun _ _ session =>
  some { session with navigation := session.navigation.popToRoot }

end Command
end Storyboard
