import Storyboard.Session
import Storyboard.Web.Draft

/-!
# Commands

A command is a mapping with a single key, its name, and the payload under it.  An
event is a command or a sequence of commands.  Carrying out a command may carry out
others, so it takes a frame: the parts of the interpreter that do not change, the
loop row, and the way to run a command inside.
-/

namespace Storyboard

/-- What a command is carried out in. -/
structure Frame where
  /-- The settings. -/
  settings : Settings
  /-- The evaluator. -/
  evaluator : Evaluator
  /-- Which requests are well formed. -/
  rules : Web.Rules
  /-- The position of the loop row, inside a loop. -/
  index : Option Nat
  /-- How deeply the reactions of observers may nest. -/
  bound : Nat
  /-- Carry out a command; nothing is returned where that takes too many levels. -/
  run : Node → Session → Option Session

/-- What is done with the payload of a command. -/
abbrev Command := Frame → Node → Session → Option Session

/-- The name and the payload of a command. -/
def commandParts? : Node → Option (String × Node)
  | .mapping [(name, payload)] => some (name, payload)
  | _ => none

namespace Frame

/-- Evaluate a node. -/
def evaluate (frame : Frame) (node : Node) (session : Session) : Node × Session :=
  session.evaluate frame.evaluator frame.index node

/-- Evaluate the field of a payload; a missing one is `null`. -/
def evaluateField (frame : Frame) (payload : Node) (key : String) (session : Session) :
    Node × Session :=
  session.evaluateField frame.evaluator frame.index payload key

/-- Carry out commands one after another. -/
def runAll (frame : Frame) (commands : List Node) (session : Session) : Option Session :=
  commands.foldlM (fun session command => frame.run command session) session

/-- Handle an event; what is no command and no sequence of commands is ignored. -/
def handle (frame : Frame) (event : Node) (session : Session) : Option Session :=
  match event with
  | .mapping entries => frame.run (.mapping entries) session
  | .sequence commands => frame.runAll commands session
  | _ => some session

/-- Handle an event, if there is one. -/
def handle? (frame : Frame) (event : Option Node) (session : Session) : Option Session :=
  match event with
  | some event => frame.handle event session
  | none => some session

end Frame
end Storyboard
