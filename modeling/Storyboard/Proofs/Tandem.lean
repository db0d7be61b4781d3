import Storyboard.Proofs.Command.Coupling
import Storyboard.Proofs.Run

/-!
# Interpreters in tandem

Whatever an interpreter and its host do to a session is composed of a few operations with
values: computations on the variables, computations on the requests, the look-up of an event,
and edits.  A relation of operations that composition keeps, and that each of these has to
itself, relates the runs of two interpreters that differ in their commands alone, if it relates
their commands.
-/

namespace Storyboard
namespace Session

/-- An operation that comes to an end with a value, if it comes to an end. -/
abbrev Operation (α : Type) := Session → Option (α × Session)

namespace Operation

variable {α β : Type}

/-- An operation, and another that depends on its value. -/
def andThen (first : Operation α) (second : α → Operation β) : Operation β :=
  fun session => (first session).bind fun result => second result.1 result.2

/-- An operation that has no value of interest. -/
def only (operation : Session → Option Session) : Operation Unit :=
  fun session => (operation session).map (Prod.mk ())

/-- An operation that does nothing but return a value. -/
def done (value : α) : Operation α := fun session => some (value, session)

/-- A computation on the variables and the parsed paths, which sees what is stored. -/
def compute
    (f : Context → Path.Cache → List (String × Node) → Option (α × Context × Path.Cache)) :
    Operation α :=
  fun session => (f session.context session.paths session.shelf.entries).map fun result =>
    (result.1, { session with context := result.2.1, paths := result.2.2 })

/-- A computation on the requests. -/
def transact (f : Web.Exchange → α × Web.Exchange) : Operation α :=
  fun session => some ((f session.exchange).1, { session with exchange := (f session.exchange).2 })

/-- The look-up of the event of a screen. -/
def appears (id : String) : Operation (Option Node) :=
  fun session => some (session.onAppear? id, session)

theorem only_andThen
    (first second : Session → Option Session) :
    only (fun session => first session >>= second) =
      (only first).andThen fun _ => only second := by
  funext session
  dsimp only [only, andThen]
  cases first session <;> rfl

/-- An operation whose own value is not looked at. -/
theorem map_snd_eq_andThen
    (operation : Operation α)
    (value : β) :
    (fun session => (operation session).map fun result => (value, result.2)) =
      operation.andThen fun _ => done value :=
  funext fun _ => Option.map_eq_bind

/-- The opening of a screen, after a look-up of its event. -/
theorem only_push
    (id : String)
    (next : Option Node → Session → Option Session) :
    (only fun session => next (session.onAppear? id) (session.push id)) =
      (appears id).andThen fun event =>
        (only fun session => some (session.edit (.push id))).andThen fun _ => only (next event) :=
  rfl

/-- The value of the variable is read before all else. -/
theorem only_during
    (frame : Frame)
    (name : String)
    (value : Node)
    (body : Session → Option Session) :
    only (frame.during name value body) =
      (compute fun context paths _ => some (context.get? name, context, paths)).andThen
        fun before =>
          (only fun session => session.update frame.bound ⟨name, some value⟩).andThen fun _ =>
            (only body).andThen fun _ =>
              only fun session => session.update frame.bound ⟨name, before⟩ := by
  simp only [← only_andThen]
  rfl

/-- An evaluation is a computation. -/
theorem some_evaluate_eq_compute
    (evaluator : Evaluator)
    (index : Option Nat)
    (node : Node) :
    (fun session : Session => some (session.evaluate evaluator index node)) =
      compute fun context paths stored =>
        let result := evaluator.evaluate ⟨context.bindings, index, stored⟩ node paths
        some (result.1, context, result.2) := by
  funext session
  dsimp only [Session.evaluate, Session.scope, compute]
  generalize evaluator.evaluate _ node session.paths = result
  rfl

/-- An assignment is a computation. -/
theorem assign_eq_compute
    (evaluator : Evaluator)
    (bound : Nat)
    (index : Option Nat)
    (path : String)
    (value : Node) :
    (fun session : Session => session.assign evaluator bound index path value) =
      compute fun context paths _ => evaluator.assign bound index path value context paths :=
  rfl

/-- An update is a computation. -/
theorem only_update_eq_compute
    (bound : Nat)
    (update : Update) :
    only (fun session => session.update bound update) =
      compute fun context paths _ =>
        (context.update bound update).map fun context => ((), context, paths) := by
  funext session
  dsimp only [only, compute, Session.update]
  cases session.context.update bound update <;> rfl

/-- A resolution is a computation. -/
theorem resolve_eq_compute
    (evaluator : Evaluator)
    (bound : Nat)
    (index : Option Nat)
    (cap : Nat) :
    (fun session : Session => session.resolve evaluator bound index cap) =
      compute fun context paths stored =>
        evaluator.resolve bound index stored cap context paths :=
  rfl

end Operation

/-- A relation of operations with values that composition keeps and that the operations of
sessions have to themselves. -/
structure Tandem (relates : (α : Type) → Operation α → Operation α → Prop) : Prop where
  /-- An operation that takes too many levels. -/
  fail : ∀ {α : Type}, relates α (fun _ => none) fun _ => none
  /-- Doing nothing. -/
  done : ∀ {α : Type} (value : α), relates α (.done value) (.done value)
  /-- One operation after another. -/
  andThen : ∀ {α β : Type} {first other : Operation α} {second another : α → Operation β},
    relates α first other → (∀ value, relates β (second value) (another value)) →
      relates β (first.andThen second) (other.andThen another)
  /-- A computation on the variables. -/
  compute : ∀ {α : Type}
      (f : Context → Path.Cache → List (String × Node) → Option (α × Context × Path.Cache)),
    relates α (.compute f) (.compute f)
  /-- A computation on the requests. -/
  transact : ∀ {α : Type} (f : Web.Exchange → α × Web.Exchange),
    relates α (.transact f) (.transact f)
  /-- The look-up of an event. -/
  appears : ∀ id : String, relates (Option Node) (.appears id) (.appears id)
  /-- An edit; a screen that is opened has a name. -/
  edit : ∀ edit : Edit, edit ≠ .push "" →
    relates Unit (.only fun session => some (session.edit edit))
      (.only fun session => some (session.edit edit))

end Session

/-- A command and another that does related things if the commands inside do. -/
def Command.Pairs
    (relates : (α : Type) → Session.Operation α → Session.Operation α → Prop)
    (command other : Command) : Prop :=
  ∀ (frame : Frame) (run : Node → Session → Option Session) (payload : Node),
    (∀ node, relates Unit (.only (frame.run node)) (.only (run node))) →
      relates Unit (.only (command frame payload))
        (.only (other (frame.widen frame.bound run) payload))

/-- An interpreter whose commands are replaced. -/
def Interpreter.withTwins (twin : Command → Command) (interpreter : Interpreter) : Interpreter :=
  { interpreter with commands := interpreter.commands.map fun entry => (entry.1, twin entry.2) }

theorem Interpreter.withTwins_id (interpreter : Interpreter) :
    interpreter.withTwins id = interpreter := by
  unfold withTwins
  rw [show (fun entry : String × Command => (entry.1, id entry.2)) = id from rfl, List.map_id]

namespace Session
namespace Tandem

variable {relates : (α : Type) → Operation α → Operation α → Prop} (tandem : Tandem relates)

include tandem

theorem update
    (bound : Nat)
    (update : Update) :
    relates Unit (.only fun session => session.update bound update)
      (.only fun session => session.update bound update) := by
  rw [Operation.only_update_eq_compute]
  exact tandem.compute _

theorem evaluate
    (evaluator : Evaluator)
    (index : Option Nat)
    (node : Node) :
    relates Node (fun session => some (session.evaluate evaluator index node))
      (fun session => some (session.evaluate evaluator index node)) := by
  rw [Operation.some_evaluate_eq_compute]
  exact tandem.compute _

theorem assign
    (evaluator : Evaluator)
    (bound : Nat)
    (index : Option Nat)
    (path : String)
    (value : Node) :
    relates (Except PathError Unit)
      (fun session => session.assign evaluator bound index path value)
      (fun session => session.assign evaluator bound index path value) := by
  rw [Operation.assign_eq_compute]
  exact tandem.compute _

theorem resolve
    (evaluator : Evaluator)
    (bound : Nat)
    (index : Option Nat)
    (cap : Nat) :
    relates Report (fun session => session.resolve evaluator bound index cap)
      (fun session => session.resolve evaluator bound index cap) := by
  rw [Operation.resolve_eq_compute]
  exact tandem.compute _

/-- Operations with another value in place of their own. -/
theorem instead
    {α β : Type}
    {operation other : Operation α}
    (related : relates α operation other)
    (value : β) :
    relates β (fun session => (operation session).map fun result => (value, result.2))
      (fun session => (other session).map fun result => (value, result.2)) := by
  rw [Operation.map_snd_eq_andThen, Operation.map_snd_eq_andThen]
  exact tandem.andThen related fun _ => tandem.done value

/-- Operations that were without a value. -/
theorem counted
    {operation other : Session → Option Session}
    (related : relates Unit (.only operation) (.only other))
    (count : Nat) :
    relates Nat (fun session => (operation session).map (Prod.mk count))
      (fun session => (other session).map (Prod.mk count)) := by
  have valued := tandem.instead related count
  simp only [Operation.only, Option.map_map] at valued
  exact valued

theorem during
    {frame other : Frame}
    (same : frame.bound = other.bound)
    (name : String)
    (value : Node)
    {body twin : Session → Option Session}
    (bodies : relates Unit (.only body) (.only twin)) :
    relates Unit (.only (frame.during name value body)) (.only (other.during name value twin)) := by
  rw [Operation.only_during, Operation.only_during, ← same]
  exact tandem.andThen (tandem.compute _) fun before =>
    tandem.andThen (tandem.update frame.bound _) fun _ =>
      tandem.andThen bodies fun _ => tandem.update frame.bound _

/-- The operations of commands are related to themselves. -/
theorem coupled :
    Coupled (· = ·) fun operation other => relates Unit (.only operation) (.only other) where
  stay := tandem.done ()
  andThen := by
    intro first second other another firsts seconds
    rw [Operation.only_andThen, Operation.only_andThen]
    exact tandem.andThen firsts fun _ => seconds
  evaluate evaluator index node _ _ each :=
    tandem.andThen (tandem.evaluate evaluator index node) each
  assign evaluator bound more same index path value := by
    subst same
    unfold Operation.only
    simp only [Option.map_map]
    exact tandem.instead (tandem.assign evaluator bound index path value) ()
  during same name value _ _ bodies := tandem.during same name value bodies
  push id named next other each := by
    have apart : Edit.push id ≠ .push "" := fun same => named (Edit.push.inj same)
    dsimp only
    rw [Operation.only_push, Operation.only_push]
    exact tandem.andThen (tandem.appears id) fun event =>
      tandem.andThen (tandem.edit (.push id) apart) fun _ => each event
  edit edit apart := tandem.edit edit (apart "")

/-- Built-in commands do related things. -/
theorem pairs_builtin : ∀ entry ∈ Command.builtin, entry.2.Pairs relates entry.2 :=
  fun entry member frame run payload runs =>
    tandem.coupled.builtin entry member frame frame.bound run payload rfl runs

end Tandem
end Session

/-- A session in which the screens of an app are made known and the main one is shown. -/
def Session.openedBy (session : Session) (app : App) : Session :=
  { app.screens.foldl register session with
    navigation := session.navigation.setRoot app.mainScreen }

/-! ## What interpreters do as composed operations -/

namespace Interpreter

variable (interpreter : Interpreter)

open Session (Operation)

/-- The registered command that a node stands for, with its payload. -/
def registered? (node : Node) : Option (Command × Node) :=
  (commandParts? node).bind fun parts =>
    (Table.get? interpreter.commands parts.1).map fun command => (command, parts.2)

variable {interpreter} in
theorem exists_mem_of_registered?
    {node payload : Node}
    {command : Command}
    (registered : interpreter.registered? node = some (command, payload)) :
    ∃ name, (name, command) ∈ interpreter.commands := by
  obtain ⟨parts, -, found⟩ := Option.bind_eq_some_iff.mp registered
  obtain ⟨other, isCommand, same⟩ := Option.map_eq_some_iff.mp found
  obtain ⟨rfl, -⟩ := Prod.mk.inj same
  exact ⟨parts.1, Table.mem_of_get?_eq_some isCommand⟩

/-- The twin of a command stands where the command stood. -/
theorem registered?_withTwins
    (twin : Command → Command)
    (node : Node) :
    (interpreter.withTwins twin).registered? node =
      (interpreter.registered? node).map fun found => (twin found.1, found.2) := by
  unfold registered? withTwins
  cases commandParts? node with
  | none => rfl
  | some parts =>
      dsimp only [Option.bind_some]
      rw [Table.get?_map, Option.map_map, Option.map_map]
      rfl

/-- A registered command is put on record and carried out; any other node is passed over. -/
theorem only_execute
    (index : Option Nat)
    (bound : Nat)
    (node : Node) :
    Operation.only (interpreter.execute index (bound + 1) node) =
      match interpreter.registered? node with
      | none => .done ()
      | some (command, payload) =>
          Operation.andThen
            (.only fun session => some (session.edit (.note (.command index node))))
            fun _ => .only (command (interpreter.outerFrame index bound) payload) := by
  funext session
  dsimp only [Operation.only]
  rw [execute, registered?]
  cases commandParts? node with
  | none => rfl
  | some parts =>
      dsimp only [Option.bind_some]
      cases Table.get? interpreter.commands parts.1 <;> rfl

/-- The outcome that arrived first is collected and applied before one operation; without an
outcome there is another operation. -/
def applying {α : Type} (bound : Nat) (idle applied : Operation α) : Operation α :=
  Operation.andThen
    (.transact fun exchange =>
      match exchange.collect? with
      | none => (none, exchange)
      | some (pending, outcome, exchange) => (some (pending, outcome), exchange))
    fun
      | none => idle
      | some (pending, outcome) =>
          Operation.andThen
            (.only ((interpreter.outerFrame pending.index bound).complete pending outcome))
            fun _ => applied

theorem applying_apply
    {α : Type}
    (bound : Nat)
    (idle applied : Operation α)
    (session : Session) :
    interpreter.applying bound idle applied session =
      match session.exchange.collect? with
      | none => idle session
      | some (pending, outcome, exchange) =>
          ((interpreter.outerFrame pending.index bound).complete pending outcome
            { session with exchange := exchange }).bind applied := by
  dsimp only [applying, Operation.andThen, Operation.transact, Operation.only]
  cases session.exchange.collect? with
  | none => rfl
  | some collected => exact Option.bind_map

theorem collect_eq
    (bound : Nat) :
    interpreter.collect bound = interpreter.applying bound (.done 0) (.done 1) := by
  funext session
  rw [applying_apply, collect]
  cases session.exchange.collect? with
  | none => rfl
  | some collected => exact Option.map_eq_bind

theorem drainFrom_zero
    (bound count : Nat) :
    interpreter.drainFrom bound 0 count =
      interpreter.applying bound (.done count) fun _ => none := by
  funext session
  rw [applying_apply, drainFrom]
  cases session.exchange.collect? with
  | none => rfl
  | some collected => exact (Option.bind_fun_none _).symm

theorem drainFrom_succ
    (bound limit count : Nat) :
    interpreter.drainFrom bound (limit + 1) count =
      interpreter.applying bound (.done count) (interpreter.drainFrom bound limit (count + 1)) := by
  funext session
  rw [applying_apply, drainFrom]
  cases session.exchange.collect? <;> rfl

/-- Waiting is a drain, and unless no request waits any more, arrivals and what comes then. -/
def waiting
    (arrive : Web.Exchange → Web.Exchange)
    (bound count : Nat)
    (next : Nat → Operation Nat) :
    Operation Nat :=
  Operation.andThen (interpreter.drainFrom bound bound count) fun count =>
    Operation.andThen (.transact fun exchange => (exchange.inFlight, exchange)) fun inFlight =>
      if inFlight = 0 then .done count
      else Operation.andThen (.transact fun exchange => ((), arrive exchange)) fun _ => next count

theorem waiting_apply
    (arrive : Web.Exchange → Web.Exchange)
    (bound count : Nat)
    (next : Nat → Operation Nat)
    (session : Session) :
    interpreter.waiting arrive bound count next session =
      (interpreter.drainFrom bound bound count session).bind fun drained =>
        if drained.2.exchange.inFlight = 0 then some drained
        else next drained.1 { drained.2 with exchange := arrive drained.2.exchange } := by
  unfold waiting
  dsimp only [Operation.andThen]
  congr 1
  funext drained
  dsimp only [Operation.transact, Option.bind_some]
  split <;> rfl

theorem settleFrom_zero
    (arrive : Web.Exchange → Web.Exchange)
    (bound count : Nat) :
    interpreter.settleFrom arrive bound 0 count =
      interpreter.waiting arrive bound count fun _ _ => none := by
  funext session
  rw [waiting_apply, settleFrom]
  rfl

theorem settleFrom_succ
    (arrive : Web.Exchange → Web.Exchange)
    (bound turns count : Nat) :
    interpreter.settleFrom arrive bound (turns + 1) count =
      interpreter.waiting arrive bound count (interpreter.settleFrom arrive bound turns) := by
  funext session
  rw [waiting_apply, settleFrom]
  rfl

/-- The event of the main screen is handled. -/
def welcome (bound : Nat) (app : App) (report : Report) : Operation (Except AppError Report) :=
  (Operation.appears app.mainScreen).andThen fun event =>
    Operation.andThen (.only ((interpreter.outerFrame none bound).handle? event)) fun _ =>
      .done (.ok report)

/-- A valid app is started with the variables of the app, by the event of its main screen. -/
theorem start_eq
    {app : App}
    (valid : app.validate = .ok ())
    (bound : Nat) :
    interpreter.start bound app =
      Operation.andThen
        (.compute fun _ paths stored =>
          interpreter.evaluator.resolve bound none stored interpreter.settings.iterationCap
            { bindings := app.bindings } paths)
        fun report session => interpreter.welcome bound app report (session.openedBy app) := by
  funext session
  rw [start, valid]
  dsimp only [Operation.andThen, Operation.compute, Session.resolve]
  cases interpreter.evaluator.resolve bound none session.shelf.entries
    interpreter.settings.iterationCap { bindings := app.bindings } session.paths with
  | none => rfl
  | some resolved =>
      dsimp only [welcome, Operation.andThen, Operation.only, Operation.appears]
      rw [Option.map_some, Option.bind_some, Option.bind_some, Option.bind_map]
      rfl

/-- A run is its first step and then the others. -/
theorem run_eq_andThen
    (bound : Nat)
    (step : Step)
    (rest : List Step) :
    interpreter.run bound (step :: rest) =
      Operation.andThen (interpreter.perform bound step) fun count =>
        Operation.andThen (interpreter.run bound rest) fun others => .done (count + others) := by
  funext session
  rw [run_cons]
  dsimp only [Operation.andThen]
  congr 1
  funext first
  exact Option.map_eq_bind

end Interpreter

/-! ## Two interpreters -/

namespace Session
namespace Tandem

variable {relates : (α : Type) → Operation α → Operation α → Prop} (tandem : Tandem relates)
  {interpreter : Interpreter} {twin : Command → Command}
  (pairs : ∀ entry ∈ interpreter.commands, entry.2.Pairs relates (twin entry.2))

include tandem pairs

/-- Carrying out a command, by induction on the levels of nesting. -/
theorem execute
    (index : Option Nat)
    (bound : Nat)
    (node : Node) :
    relates Unit (.only (interpreter.execute index bound node))
      (.only ((interpreter.withTwins twin).execute index bound node)) := by
  induction bound generalizing node with
  | zero => exact tandem.fail
  | succ bound inductionHypothesis =>
      rw [Interpreter.only_execute, Interpreter.only_execute, Interpreter.registered?_withTwins]
      cases registered : interpreter.registered? node with
      | none => exact tandem.done ()
      | some found =>
          obtain ⟨command, payload⟩ := found
          obtain ⟨name, member⟩ := Interpreter.exists_mem_of_registered? registered
          exact tandem.andThen (tandem.edit _ nofun) fun _ =>
            pairs (name, command) member (interpreter.outerFrame index bound) _ payload
              inductionHypothesis

/-- The handling of an event. -/
theorem handle
    (index : Option Nat)
    (bound : Nat)
    (event : Node) :
    relates Unit (.only (interpreter.handle index bound event))
      (.only ((interpreter.withTwins twin).handle index bound event)) := by
  have runs : ∀ node, relates Unit (.only ((interpreter.outerFrame index bound).run node))
      (.only ((interpreter.withTwins twin).execute index bound node)) :=
    tandem.execute pairs index bound
  exact tandem.coupled.handle bound runs event

/-- The handling of an event that may be missing. -/
theorem handle?
    (index : Option Nat)
    (bound : Nat)
    (event : Option Node) :
    relates Unit (.only ((interpreter.outerFrame index bound).handle? event))
      (.only (((interpreter.withTwins twin).outerFrame index bound).handle? event)) := by
  cases event with
  | none => exact tandem.done ()
  | some event => exact tandem.handle pairs index bound event

/-- What is applied when an outcome has arrived. -/
theorem applying
    {α : Type}
    (bound : Nat)
    {idle applied idleToo appliedToo : Operation α}
    (idles : relates α idle idleToo)
    (applies : relates α applied appliedToo) :
    relates α (interpreter.applying bound idle applied)
      ((interpreter.withTwins twin).applying bound idleToo appliedToo) := by
  refine tandem.andThen (tandem.transact _) fun arrived => ?_
  cases arrived with
  | none => exact idles
  | some collected =>
      obtain ⟨pending, outcome⟩ := collected
      have runs : ∀ node,
          relates Unit (.only ((interpreter.outerFrame pending.index bound).run node))
            (.only ((interpreter.withTwins twin).execute pending.index bound node)) :=
        tandem.execute pairs pending.index bound
      have completes := tandem.coupled.complete runs rfl pending outcome
      exact tandem.andThen completes fun _ => applies

/-- A drain, by induction on the outcomes it may collect. -/
theorem drainFrom
    (bound limit count : Nat) :
    relates Nat (interpreter.drainFrom bound limit count)
      ((interpreter.withTwins twin).drainFrom bound limit count) := by
  induction limit generalizing count with
  | zero =>
      rw [Interpreter.drainFrom_zero, Interpreter.drainFrom_zero]
      exact tandem.applying pairs bound (tandem.done count) tandem.fail
  | succ limit inductionHypothesis =>
      rw [Interpreter.drainFrom_succ, Interpreter.drainFrom_succ]
      exact tandem.applying pairs bound (tandem.done count) (inductionHypothesis (count + 1))

theorem waiting
    (arrive : Web.Exchange → Web.Exchange)
    (bound count : Nat)
    {next nextToo : Nat → Operation Nat}
    (nexts : ∀ count, relates Nat (next count) (nextToo count)) :
    relates Nat (interpreter.waiting arrive bound count next)
      ((interpreter.withTwins twin).waiting arrive bound count nextToo) := by
  refine tandem.andThen (tandem.drainFrom pairs bound bound count) fun count => ?_
  refine tandem.andThen (tandem.transact _) fun inFlight => ?_
  split
  · exact tandem.done count
  · exact tandem.andThen (tandem.transact _) fun _ => nexts count

/-- The wait for all requests, by induction on the turns. -/
theorem settleFrom
    (arrive : Web.Exchange → Web.Exchange)
    (bound turns count : Nat) :
    relates Nat (interpreter.settleFrom arrive bound turns count)
      ((interpreter.withTwins twin).settleFrom arrive bound turns count) := by
  induction turns generalizing count with
  | zero =>
      rw [Interpreter.settleFrom_zero, Interpreter.settleFrom_zero]
      exact tandem.waiting pairs arrive bound count fun _ => tandem.fail
  | succ turns inductionHypothesis =>
      rw [Interpreter.settleFrom_succ, Interpreter.settleFrom_succ]
      exact tandem.waiting pairs arrive bound count inductionHypothesis

/-- One step. -/
theorem perform
    (bound : Nat)
    (step : Step) :
    relates Nat (interpreter.perform bound step)
      ((interpreter.withTwins twin).perform bound step) := by
  cases step with
  | event index event => exact tandem.counted (tandem.handle pairs index bound event) 0
  | command index command => exact tandem.counted (tandem.execute pairs index bound command) 0
  | set name value => exact tandem.counted (tandem.update bound ⟨name, some value⟩) 0
  | remove name => exact tandem.counted (tandem.update bound ⟨name, none⟩) 0
  | assign index path value =>
      exact tandem.instead (tandem.assign interpreter.evaluator bound index path value) 0
  | resolve index cap =>
      exact tandem.instead (tandem.resolve interpreter.evaluator bound index cap) 0
  | drain => exact tandem.drainFrom pairs bound bound 0
  | settle network => exact tandem.settleFrom pairs _ bound bound 0
  | collect =>
      have collects := tandem.applying pairs bound (tandem.done 0) (tandem.done 1)
      rwa [← Interpreter.collect_eq, ← Interpreter.collect_eq] at collects
  | arrive id outcome => exact tandem.transact fun exchange => (0, exchange.finish id outcome)
  | connect online => exact tandem.transact fun exchange => (0, { exchange with online := online })
  | observe =>
      exact tandem.compute fun context paths _ =>
        some (0, (context.observe Observer.watch).2, paths)
  | unobserve id =>
      exact tandem.compute fun context paths _ => some (0, context.unobserve id, paths)

theorem welcome
    (bound : Nat)
    (app : App)
    (report : Report) :
    relates (Except AppError Report) (interpreter.welcome bound app report)
      ((interpreter.withTwins twin).welcome bound app report) :=
  tandem.andThen (tandem.appears app.mainScreen) fun event =>
    tandem.andThen (tandem.handle? pairs none bound event) fun _ => tandem.done (Except.ok report)

/-- A run, by induction on the steps. -/
theorem run
    (bound : Nat)
    (steps : List Step) :
    relates Nat (interpreter.run bound steps) ((interpreter.withTwins twin).run bound steps) := by
  induction steps with
  | nil => exact tandem.done 0
  | cons step rest inductionHypothesis =>
      rw [Interpreter.run_eq_andThen, Interpreter.run_eq_andThen]
      exact tandem.andThen (tandem.perform pairs bound step) fun count =>
        tandem.andThen inductionHypothesis fun others => tandem.done (count + others)

end Tandem
end Session
end Storyboard
