import Storyboard.Proofs.Command.Coupling

/-!
# What holds of every operation that commands are made of

Commands are composed of a few operations on a session: evaluation, assignment, a
variable that has a value for a while, navigation, storing, logging, and issuing a
request.  A property of operations that all of these have and that composition keeps
is therefore a property of everything that built-in commands do, however deeply they
nest.
-/

namespace Storyboard

namespace Session

/-- An operation with a value: what follows has the property if it has it for every value. -/
def Passes
    {α : Type}
    (holds : (Session → Option Session) → Prop)
    (operation : Session → α × Session) : Prop :=
  ∀ next : α → Session → Option Session, (∀ value, holds (next value)) →
    holds fun session =>
      match operation session with
      | (value, session) => next value session

/-- A property of operations that the operations of commands have and composition keeps. -/
structure Closed (holds : (Session → Option Session) → Prop) : Prop where
  /-- An operation that takes too many levels. -/
  fail : holds fun _ => none
  /-- Doing nothing. -/
  stay : holds some
  /-- One operation after another. -/
  andThen : ∀ {first second : Session → Option Session},
    holds first → holds second → holds fun session => first session >>= second
  /-- An evaluation. -/
  evaluate : ∀ (evaluator : Evaluator) (index : Option Nat) (node : Node),
    Passes holds fun session => session.evaluate evaluator index node
  /-- An assignment. -/
  assign : ∀ (evaluator : Evaluator) (bound : Nat) (index : Option Nat) (path : String)
      (value : Node),
    holds fun session => (session.assign evaluator bound index path value).map Prod.snd
  /-- An operation while a variable has a value. -/
  during : ∀ (frame : Frame) (name : String) (value : Node) {body : Session → Option Session},
    holds body → holds (frame.during name value body)
  /-- The record of a deed. -/
  note : ∀ deed : Deed, holds fun session => some (session.note deed)
  /-- The opening of a screen that may have an event; it has a name. -/
  push : ∀ id : String, id ≠ "" →
    Passes holds fun session => (session.onAppear? id, session.push id)
  /-- Closing the top screen. -/
  pop : holds fun session => some { session with navigation := session.navigation.pop }
  /-- Closing all screens above the root. -/
  popToRoot :
    holds fun session => some { session with navigation := session.navigation.popToRoot }
  /-- Storing a value. -/
  store : ∀ (key : String) (value : Node), holds fun session => some (session.store key value)
  /-- Logging a line. -/
  log : ∀ line : String, holds fun session => some (session.log line)
  /-- Issuing a request. -/
  issue : ∀ (request : Web.Request) (pending : Web.Pending),
    holds fun session => some (session.issue request pending)

/-- An evaluation changes no variable. -/
@[simp] theorem context_evaluate
    (session : Session)
    (evaluator : Evaluator)
    (index : Option Nat)
    (node : Node) :
    (session.evaluate evaluator index node).2.context = session.context := by
  unfold Session.evaluate
  generalize evaluator.evaluate (session.scope index) node session.paths = result
  rfl

/-- An evaluation leaves requests alone. -/
@[simp] theorem exchange_evaluate
    (session : Session)
    (evaluator : Evaluator)
    (index : Option Nat)
    (node : Node) :
    (session.evaluate evaluator index node).2.exchange = session.exchange := by
  unfold Session.evaluate
  generalize evaluator.evaluate (session.scope index) node session.paths = result
  rfl

end Session

/-- A command that has a property of operations wherever the commands inside have it. -/
def Command.Respects
    (holds : (Session → Option Session) → Prop)
    (command : Command) : Prop :=
  ∀ (frame : Frame) (payload : Node), (∀ node, holds (frame.run node)) →
    holds (command frame payload)

namespace Session
namespace Closed

variable {holds : (Session → Option Session) → Prop}

/-- A property of operations as a relation of each of them to itself. -/
theorem coupled
    (closed : Closed holds) :
    Coupled (· = ·) fun operation other => operation = other ∧ holds operation where
  stay := ⟨rfl, closed.stay⟩
  andThen := by
    rintro first second _ _ ⟨rfl, holdsFirst⟩ ⟨rfl, holdsSecond⟩
    exact ⟨rfl, closed.andThen holdsFirst holdsSecond⟩
  evaluate evaluator index node next other each := by
    obtain rfl : next = other := funext fun value => (each value).1
    exact ⟨rfl, closed.evaluate evaluator index node next fun value => (each value).2⟩
  assign evaluator bound more same index path value := by
    subst same
    exact ⟨rfl, closed.assign evaluator bound index path value⟩
  during := by
    rintro frame other same name value body _ ⟨rfl, holdsBody⟩
    unfold Frame.during
    exact ⟨by rw [same], closed.during frame name value holdsBody⟩
  push id named next other each := by
    obtain rfl : next = other := funext fun value => (each value).1
    exact ⟨rfl, closed.push id named next fun value => (each value).2⟩
  edit edit apart := by
    refine ⟨rfl, ?_⟩
    cases edit with
    | note deed => exact closed.note deed
    | push id => exact absurd rfl (apart id)
    | pop => exact closed.pop
    | popToRoot => exact closed.popToRoot
    | store key value => exact closed.store key value
    | log line => exact closed.log line
    | issue request pending => exact closed.issue request pending

section Events

variable {frame : Frame} (closed : Closed holds) (runs : ∀ node, holds (frame.run node))

include closed runs

/-- An event. -/
theorem handle (event : Node) : holds (frame.handle event) :=
  (closed.coupled.handle frame.bound (fun node => ⟨rfl, runs node⟩) event).2

/-- The event of an outcome. -/
theorem callBack
    (callbacks : Web.Callbacks)
    (outcome : Web.Outcome) :
    holds (frame.callBack callbacks outcome) :=
  (closed.coupled.callBack (fun node => ⟨rfl, runs node⟩) rfl callbacks outcome).2

/-- The end of a request. -/
theorem complete
    (pending : Web.Pending)
    (outcome : Web.Outcome) :
    holds (frame.complete pending outcome) :=
  (closed.coupled.complete (fun node => ⟨rfl, runs node⟩) rfl pending outcome).2

end Events

/-- Every built-in command keeps to what its operations have in common. -/
theorem builtin
    (closed : Closed holds) :
    ∀ entry ∈ Command.builtin, entry.2.Respects holds := by
  intro entry member frame payload runs
  exact (closed.coupled.builtin entry member frame frame.bound frame.run payload rfl
    fun node => ⟨rfl, runs node⟩).2

/-- Commands keep to it if those that are not built in do. -/
theorem registered
    (closed : Closed holds)
    {commands : List (String × Command)}
    (others : ∀ entry ∈ commands, entry ∈ Command.builtin ∨ entry.2.Respects holds) :
    ∀ entry ∈ commands, entry.2.Respects holds := by
  intro entry member
  rcases others entry member with builtIn | respects
  · exact closed.builtin entry builtIn
  · exact respects

/-! ## The interpreter -/

variable {interpreter : Interpreter}

/-- Carrying out a command keeps to what all registered commands keep to, by induction on the
levels of nesting. -/
theorem execute
    (closed : Closed holds)
    (respects : ∀ entry ∈ interpreter.commands, entry.2.Respects holds)
    (index : Option Nat)
    (bound : Nat)
    (node : Node) :
    holds (interpreter.execute index bound node) := by
  induction bound generalizing node with
  | zero => exact closed.fail
  | succ bound inductionHypothesis =>
      cases parted : commandParts? node with
      | none =>
          have unfolded : interpreter.execute index (bound + 1) node = some := by
            funext session
            simp [Interpreter.execute, parted]
          exact unfolded ▸ closed.stay
      | some parts =>
          obtain ⟨name, payload⟩ := parts
          cases found : Table.get? interpreter.commands name with
          | none =>
              have unfolded : interpreter.execute index (bound + 1) node = some := by
                funext session
                simp [Interpreter.execute, parted, found]
              exact unfolded ▸ closed.stay
          | some command =>
              have unfolded : interpreter.execute index (bound + 1) node =
                  fun session => some (session.note (.command index node)) >>=
                    command (interpreter.outerFrame index bound) payload := by
                funext session
                simp [Interpreter.execute, parted, found, Interpreter.outerFrame]
              have member : (name, command) ∈ interpreter.commands :=
                Table.mem_of_get?_eq_some found
              rw [unfolded]
              exact closed.andThen (closed.note (.command index node))
                (respects (name, command) member (interpreter.outerFrame index bound) payload
                  inductionHypothesis)

/-- The end of a request keeps to it too. -/
theorem completeOuter
    (closed : Closed holds)
    (respects : ∀ entry ∈ interpreter.commands, entry.2.Respects holds)
    (index : Option Nat)
    (bound : Nat)
    (pending : Web.Pending)
    (outcome : Web.Outcome) :
    holds ((interpreter.outerFrame index bound).complete pending outcome) :=
  closed.complete (closed.execute respects index bound) pending outcome

/-- The handling of an event keeps to it too. -/
theorem handleOuter
    (closed : Closed holds)
    (respects : ∀ entry ∈ interpreter.commands, entry.2.Respects holds)
    (index : Option Nat)
    (bound : Nat)
    (event : Node) :
    holds (interpreter.handle index bound event) :=
  closed.handle (closed.execute respects index bound) event

end Closed
end Session
end Storyboard
