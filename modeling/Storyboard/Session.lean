import Storyboard.App
import Storyboard.Assignment
import Storyboard.Navigation
import Storyboard.Resolution
import Storyboard.Settings
import Storyboard.Shelf
import Storyboard.Web.Exchange

/-!
# Sessions

Everything that changes while an app runs.
-/

namespace Storyboard

/-- What is on record about the course of a session. -/
inductive Deed where
  /-- A command was carried out, in a loop row or outside of all. -/
  | command (index : Option Nat) (node : Node)
  /-- A screen was opened. -/
  | screen (id : String)

/-- The state of a running app. -/
structure Session where
  /-- The variables and their observers. -/
  context : Context := {}
  /-- The paths that have been parsed. -/
  paths : Path.Cache := []
  /-- The key-value store. -/
  shelf : Shelf := {}
  /-- The open screens. -/
  navigation : Navigation := {}
  /-- The known screens by their names. -/
  screens : List (String × Screen) := []
  /-- The requests on the way. -/
  exchange : Web.Exchange := {}
  /-- The lines that were logged. -/
  lines : List String := []
  /-- The record of what was done, in order. -/
  deeds : List Deed := []

namespace Session

/-- What an evaluation can see. -/
def scope (session : Session) (index : Option Nat) : Scope :=
  ⟨session.context.bindings, index, session.shelf.entries⟩

/-- Evaluate a node. -/
def evaluate (session : Session) (evaluator : Evaluator) (index : Option Nat) (node : Node) :
    Node × Session :=
  let (value, paths) := evaluator.evaluate (session.scope index) node session.paths
  (value, { session with paths := paths })

/-- Evaluate the field of a payload; a missing one is `null`. -/
def evaluateField (session : Session) (evaluator : Evaluator) (index : Option Nat)
    (payload : Node) (key : String) : Node × Session :=
  match payload.get? key with
  | some node => session.evaluate evaluator index node
  | none => (.null, session)

/-- Write a variable. -/
def update (bound : Nat) (update : Update) (session : Session) : Option Session :=
  (session.context.update bound update).map fun context => { session with context := context }

/-- Write a value at a path given as text. -/
def assign (evaluator : Evaluator) (bound : Nat) (index : Option Nat) (path : String)
    (value : Node) (session : Session) : Option (Except PathError Unit × Session) :=
  (evaluator.assign bound index path value session.context session.paths).map
    fun (outcome, context, paths) => (outcome, { session with context := context, paths := paths })

/-- Replace variables by what they evaluate to, in at most a number of passes. -/
def resolve (evaluator : Evaluator) (bound : Nat) (index : Option Nat) (cap : Nat)
    (session : Session) : Option (Report × Session) :=
  (evaluator.resolve bound index session.shelf.entries cap session.context session.paths).map
    fun (report, context, paths) => (report, { session with context := context, paths := paths })

/-- Make a screen known; one of the same name gives way. -/
def register (session : Session) (screen : Screen) : Session :=
  { session with screens := Table.insert session.screens screen.id screen }

/-- The event of a known screen. -/
def onAppear? (session : Session) (id : String) : Option Node :=
  (Table.get? session.screens id).bind Screen.onAppear

/-- Put a deed on record. -/
def note (session : Session) (deed : Deed) : Session :=
  { session with deeds := session.deeds ++ [deed] }

/-- Open a screen. -/
def push (session : Session) (id : String) : Session :=
  { session.note (.screen id) with navigation := session.navigation.push id }

/-- Log a line. -/
def log (session : Session) (line : String) : Session :=
  { session with lines := session.lines ++ [line] }

/-- Store a value. -/
def store (session : Session) (key : String) (value : Node) : Session :=
  { session with shelf := session.shelf.set key value }

/-- Issue a request. -/
def issue (session : Session) (request : Web.Request) (pending : Web.Pending) : Session :=
  { session with exchange := session.exchange.issue request pending }

end Session
end Storyboard
