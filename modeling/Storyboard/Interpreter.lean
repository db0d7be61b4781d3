import Storyboard.Command.Builtin
import Storyboard.Operator.Builtin

/-!
# The interpreter

An interpreter carries out commands on a session.  Commands nest, and opening a
screen may open another, so the functions take a bound on the levels of nesting
and return nothing where it does not suffice.
-/

namespace Storyboard

/-- The parts of a running app that do not change. -/
structure Interpreter where
  /-- The settings. -/
  settings : Settings := {}
  /-- The operators by name. -/
  operators : List (String × Operator) := Operator.builtin
  /-- The commands by name. -/
  commands : List (String × Command) := Command.builtin
  /-- Which requests are well formed. -/
  rules : Web.Rules := .standard

namespace Interpreter

/-- The evaluator. -/
def evaluator (interpreter : Interpreter) : Evaluator :=
  ⟨interpreter.operators, interpreter.settings.indexPlaceholder⟩

/-- The frame of a loop row, with a bound and the way to run commands inside. -/
def frame (interpreter : Interpreter) (index : Option Nat) (bound : Nat)
    (run : Node → Session → Option Session) : Frame :=
  { settings := interpreter.settings
    evaluator := interpreter.evaluator
    rules := interpreter.rules
    index := index
    bound := bound
    run := run }

/-- Carry out a command; what is no command, or has no registered name, is passed over. -/
def execute (interpreter : Interpreter) (index : Option Nat) :
    Nat → Node → Session → Option Session
  | 0, _, _ => none
  | bound + 1, node, session =>
      match commandParts? node with
      | none => some session
      | some (name, payload) =>
          match Table.get? interpreter.commands name with
          | none => some session
          | some command =>
              command (interpreter.frame index bound (execute interpreter index bound)) payload
                (session.note (.command index node))

/-- The frame in which events of a loop row are handled. -/
def outerFrame (interpreter : Interpreter) (index : Option Nat) (bound : Nat) : Frame :=
  interpreter.frame index bound (interpreter.execute index bound)

/-- Handle an event. -/
def handle (interpreter : Interpreter) (index : Option Nat) (bound : Nat) (event : Node)
    (session : Session) : Option Session :=
  (interpreter.outerFrame index bound).handle event session

/-- Collect the outcomes that have arrived, at most a number of them, and count them from a
number on. -/
def drainFrom (interpreter : Interpreter) (bound : Nat) :
    Nat → Nat → Session → Option (Nat × Session)
  | limit, count, session =>
      match session.exchange.collect? with
      | none => some (count, session)
      | some (pending, outcome, exchange) =>
          match limit with
          | 0 => none
          | limit + 1 => do
              let session ← (interpreter.outerFrame pending.index bound).complete pending outcome
                { session with exchange := exchange }
              drainFrom interpreter bound limit (count + 1) session

/-- Collect the outcomes that have arrived and count them. -/
def drain (interpreter : Interpreter) (bound : Nat) (session : Session) :
    Option (Nat × Session) :=
  interpreter.drainFrom bound bound 0 session

/-- Collect outcomes and let others arrive, in at most a number of turns, until no request waits. -/
def settleFrom (interpreter : Interpreter) (arrive : Web.Exchange → Web.Exchange) (bound : Nat) :
    Nat → Nat → Session → Option (Nat × Session)
  | turns, count, session => do
      let (count, session) ← interpreter.drainFrom bound bound count session
      if session.exchange.inFlight = 0 then some (count, session)
      else
        match turns with
        | 0 => none
        | turns + 1 =>
            settleFrom interpreter arrive bound turns count
              { session with exchange := arrive session.exchange }

/-- Wait until no request waits, while a transport answers what is being sent, and count the
outcomes. -/
def settle (interpreter : Interpreter) (transport : Web.Transport) (bound : Nat)
    (session : Session) : Option (Nat × Session) :=
  interpreter.settleFrom (Web.Exchange.deliver transport) bound bound 0 session

/-- Start an app in a session: set and resolve its variables, make its screens known, show the main
screen and handle its event.  An app that is not valid is not started. -/
def start (interpreter : Interpreter) (bound : Nat) (app : App) (session : Session) :
    Option (Except AppError Report × Session) :=
  match app.validate with
  | .error error => some (.error error, session)
  | .ok () => do
      let session := { session with context := { bindings := app.bindings : Context } }
      let (report, session) ←
        session.resolve interpreter.evaluator bound none interpreter.settings.iterationCap
      let session := app.screens.foldl Session.register session
      let session := { session with navigation := session.navigation.setRoot app.mainScreen }
      let session ←
        (interpreter.outerFrame none bound).handle? (session.onAppear? app.mainScreen) session
      return (.ok report, session)

/-- Start an app, and go on with the session only if the app is valid. -/
def launch (interpreter : Interpreter) (bound : Nat) (app : App) (session : Session) :
    Except AppError (Option (Report × Session)) :=
  match interpreter.start bound app session with
  | none => .ok none
  | some (.error error, _) => .error error
  | some (.ok report, session) => .ok (some (report, session))

end Interpreter
end Storyboard
