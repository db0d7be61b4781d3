import Storyboard.Json.Record
import Storyboard.Node.Reader
import Storyboard.Node.Writer

/-!
# App definitions

An app is a set of screens, the one that is shown first, and the variables that
are set when it starts.
-/

namespace Storyboard

/-- A screen. -/
structure Screen where
  /-- The name by which it is opened. -/
  id : String
  /-- The event that is handled whenever it is opened. -/
  onAppear : Option Node := none
  /-- Everything else that is said of it. -/
  body : List (String × Node) := []
  deriving Inhabited

/-- An app. -/
structure App where
  /-- The screen that is shown first. -/
  mainScreen : String
  /-- The screens. -/
  screens : List Screen := []
  /-- The variables at the start. -/
  bindings : List (String × Node) := []
  deriving Inhabited

/-- Why an app cannot be started. -/
inductive AppError where
  /-- The main screen is none of the screens. -/
  | missingMainScreen (id : String)
  /-- Two screens have one name. -/
  | duplicateScreen (id : String)
  /-- A screen has no name. -/
  | emptyScreenId
  deriving DecidableEq, Inhabited

/-- What is said of an app that cannot be started. -/
def AppError.message : AppError → String
  | .missingMainScreen id => "Main screen '" ++ id ++ "' is not defined"
  | .duplicateScreen id => "Screen '" ++ id ++ "' is defined more than once"
  | .emptyScreenId => "Screen with an empty id"

namespace Screen

/-- A screen as far as it is given. -/
structure Given where
  /-- See `Screen.id`. -/
  id : Option String := none
  /-- The event, if one is given, even as `null`. -/
  onAppear : Option (Option Node) := none
  /-- Everything else, repeated keys included. -/
  body : List (String × Node) := []

/-- How a screen is read. -/
def shape : Json.Shape Given where
  fields :=
    [.slot "id" (·.id) (fun given value => { given with id := some value }) fun _ => Json.text,
     .slot "onAppear" (·.onAppear) (fun given value => { given with onAppear := some value })
       fun depth => Json.optional (Node.reader depth)]
  other name depth given := fun chars =>
    Json.mapValue (fun value => { given with body := given.body ++ [(name, value)] })
      (Node.reader depth chars)
  positional := false

/-- Read a screen in which containers nest no deeper than a limit. -/
def reader : Nat → Json.Reader Screen :=
  shape.read {} fun given =>
    given.id.map fun id => ⟨id, given.onAppear.join, Table.ofEntries given.body⟩

/-- Read a whole text as a screen. -/
def parse (text : String) : Except Json.Failure Screen :=
  Json.whole (reader Json.depthLimit) text.toList

/-- A screen as a node. -/
def toNode (screen : Screen) : Node :=
  .mapping
    (("id", .string screen.id) ::
      (screen.onAppear.map fun event => ("onAppear", event)).toList ++ screen.body)

end Screen

namespace App

/-- An app as far as it is given. -/
structure Given where
  /-- See `App.mainScreen`. -/
  mainScreen : Option String := none
  /-- See `App.screens`. -/
  screens : Option (List Screen) := none
  /-- See `App.bindings`. -/
  bindings : Option (List (String × Node)) := none

/-- How an app is read. -/
def shape : Json.Shape Given where
  fields :=
    [.slot "mainScreenId" (·.mainScreen)
       (fun given value => { given with mainScreen := some value }) fun _ => Json.text,
     .slot "screens" (·.screens) (fun given value => { given with screens := some value })
       (Json.listOf Screen.reader),
     .slot "initialContextVariables" (·.bindings)
       (fun given value => { given with bindings := some value }) (Json.tableOf Node.reader)]
  other _ _ given := Json.passOver given
  positional := true

/-- Read an app in which containers nest no deeper than a limit. -/
def reader : Nat → Json.Reader App :=
  shape.read {} fun given =>
    given.mainScreen.map fun mainScreen =>
      ⟨mainScreen, given.screens.getD [], given.bindings.getD []⟩

/-- Read a whole text as an app. -/
def parse (text : String) : Except Json.Failure App :=
  Json.whole (reader Json.depthLimit) text.toList

/-- An app as a node. -/
def toNode (app : App) : Node :=
  .mapping
    [("mainScreenId", .string app.mainScreen),
     ("screens", .sequence (app.screens.map Screen.toNode)),
     ("initialContextVariables", .mapping app.bindings)]

/-- The first screen of a name. -/
def screen? (app : App) (id : String) : Option Screen :=
  app.screens.find? fun screen => screen.id == id

/-- The first screen without a name or with the name of an earlier one; `seen` holds the names of
the earlier ones. -/
def faulty? (seen : List String) : List Screen → Option AppError
  | [] => none
  | screen :: rest =>
      if screen.id = "" then some .emptyScreenId
      else if screen.id ∈ seen then some (.duplicateScreen screen.id)
      else faulty? (screen.id :: seen) rest

/-- Check that the names of the screens are distinct and not empty, and that the main screen is
among them. -/
def validate (app : App) : Except AppError Unit :=
  match faulty? [] app.screens with
  | some error => .error error
  | none =>
      if app.mainScreen ∈ app.screens.map Screen.id then .ok ()
      else .error (.missingMainScreen app.mainScreen)

end App
end Storyboard
