import Storyboard.Proofs.Command.Closure
import Storyboard.Proofs.Tandem

/-!
# What lasts through a run

A relation between a session and what becomes of it lasts if it does not depend on variables
and requests and no other deed breaks it.  Such a relation holds between the start of a run
and its end, whatever the steps are.
-/

namespace Storyboard
namespace Session

/-- A relation that does not depend on variables and requests, and that no other deed breaks. -/
structure Lasting (relates : Session → Session → Prop) : Prop where
  /-- Nothing is done. -/
  refl : ∀ session, relates session session
  /-- One deed after another. -/
  trans : ∀ {first second third}, relates first second → relates second third →
    relates first third
  /-- Variables and parsed paths are no matter. -/
  context : ∀ session context paths,
    relates session { session with context := context, paths := paths }
  /-- Requests are no matter. -/
  exchange : ∀ session exchange, relates session { session with exchange := exchange }
  /-- The record of a deed. -/
  note : ∀ session deed, relates session (session.note deed)
  /-- The opening of a screen that has a name. -/
  push : ∀ session id, id ≠ "" → relates session (session.push id)
  /-- Closing the top screen. -/
  pop : ∀ session : Session,
    relates session { session with navigation := session.navigation.pop }
  /-- Closing all screens above the root. -/
  popToRoot : ∀ session : Session,
    relates session { session with navigation := session.navigation.popToRoot }
  /-- Storing a value. -/
  store : ∀ session key value, relates session (session.store key value)
  /-- Logging a line. -/
  log : ∀ session line, relates session (session.log line)

/-- An operation whose result a relation reaches. -/
def Keeps
    (relates : Session → Session → Prop)
    (operation : Session → Option Session) : Prop :=
  ∀ session result, operation session = some result → relates session result

/-- An operation with a value that is given twice, and whose result a relation reaches. -/
def Reaches
    (relates : Session → Session → Prop)
    (α : Type)
    (operation other : Operation α) : Prop :=
  operation = other ∧
    ∀ session result, operation session = some result → relates session result.2

theorem reaches_only
    {relates : Session → Session → Prop}
    {operation other : Session → Option Session} :
    Reaches relates Unit (.only operation) (.only other) ↔
      operation = other ∧ Keeps relates operation := by
  constructor
  · rintro ⟨same, reaches⟩
    refine ⟨funext fun session => ?_, fun session result finished => ?_⟩
    · exact Option.map_injective (fun _ _ equal => (Prod.mk.inj equal).2) (congrFun same session)
    · exact reaches session ((), result) (Option.map_eq_some_iff.mpr ⟨result, finished, rfl⟩)
  · rintro ⟨rfl, keeps⟩
    refine ⟨rfl, fun session result finished => ?_⟩
    obtain ⟨after, done, rfl⟩ := Option.map_eq_some_iff.mp finished
    exact keeps session after done

namespace Lasting

variable {relates : Session → Session → Prop} {interpreter : Interpreter}

theorem keeps_some
    {operation : Session → Session}
    (each : ∀ session, relates session (operation session)) :
    Keeps relates fun session => some (operation session) := by
  intro session result finished
  obtain rfl := Option.some.inj finished
  exact each session

theorem keeps_andThen
    (lasting : Lasting relates)
    {first second : Session → Option Session}
    (keepsFirst : Keeps relates first)
    (keepsSecond : Keeps relates second) :
    Keeps relates fun session => first session >>= second := by
  intro session result finished
  obtain ⟨middle, started, finished⟩ := Option.bind_eq_some_iff.mp finished
  exact lasting.trans (keepsFirst session middle started) (keepsSecond middle result finished)

theorem keeps_update
    (lasting : Lasting relates)
    (bound : Nat)
    (update : Update) :
    Keeps relates fun session => session.update bound update := by
  intro session result finished
  obtain ⟨context, -, rfl⟩ := Option.map_eq_some_iff.mp finished
  exact lasting.context session context session.paths

theorem keeps_assign
    (lasting : Lasting relates)
    (evaluator : Evaluator)
    (bound : Nat)
    (index : Option Nat)
    (path : String)
    (value : Node) :
    Keeps relates fun session =>
      (session.assign evaluator bound index path value).map Prod.snd := by
  intro session result finished
  obtain ⟨written, assigned, rfl⟩ := Option.map_eq_some_iff.mp finished
  obtain ⟨⟨_, context, paths⟩, -, rfl⟩ := Option.map_eq_some_iff.mp assigned
  exact lasting.context session context paths

/-- Built-in commands keep a relation that lasts. -/
theorem closed (lasting : Lasting relates) : Closed (Keeps relates) where
  fail _ _ impossible := by cases impossible
  stay := keeps_some lasting.refl
  andThen := lasting.keeps_andThen
  evaluate evaluator index node next each := by
    intro session result finished
    exact lasting.trans (lasting.context session session.context _)
      (each (session.evaluate evaluator index node).1 _ result finished)
  assign := lasting.keeps_assign
  during frame name value body keeps := by
    intro session result finished
    exact lasting.keeps_andThen (lasting.keeps_update frame.bound ⟨name, some value⟩)
      (lasting.keeps_andThen keeps
        (lasting.keeps_update frame.bound ⟨name, session.context.get? name⟩)) session result
      finished
  note deed := keeps_some fun session => lasting.note session deed
  push id named next each := by
    intro session result finished
    exact lasting.trans (lasting.push session id named)
      (each (session.onAppear? id) (session.push id) result finished)
  pop := keeps_some lasting.pop
  popToRoot := keeps_some lasting.popToRoot
  store key value := keeps_some fun session => lasting.store session key value
  log line := keeps_some fun session => lasting.log session line
  issue request pending := keeps_some fun session => lasting.exchange session _

/-- All operations of sessions keep a relation that lasts. -/
theorem tandem_reaches (lasting : Lasting relates) : Tandem (Reaches relates) where
  fail := ⟨rfl, fun _ _ impossible => by cases impossible⟩
  done _ := ⟨rfl, fun session result finished => by
    obtain rfl := Option.some.inj finished
    exact lasting.refl session⟩
  andThen := by
    rintro α β first _ second another ⟨rfl, reachesFirst⟩ reachesSecond
    obtain rfl : second = another := funext fun value => (reachesSecond value).1
    refine ⟨rfl, fun session result finished => ?_⟩
    obtain ⟨middle, started, finished⟩ := Option.bind_eq_some_iff.mp finished
    exact lasting.trans (reachesFirst session middle started)
      ((reachesSecond middle.1).2 middle.2 result finished)
  compute _ := ⟨rfl, fun session result finished => by
    obtain ⟨computed, -, rfl⟩ := Option.map_eq_some_iff.mp finished
    exact lasting.context session computed.2.1 computed.2.2⟩
  transact f := ⟨rfl, fun session result finished => by
    obtain rfl := Option.some.inj finished
    exact lasting.exchange session (f session.exchange).2⟩
  appears _ := ⟨rfl, fun session result finished => by
    obtain rfl := Option.some.inj finished
    exact lasting.refl session⟩
  edit edit named := by
    refine reaches_only.mpr ⟨rfl, keeps_some fun session => ?_⟩
    cases edit with
    | note deed => exact lasting.note session deed
    | push id => exact lasting.push session id fun empty => named (empty ▸ rfl)
    | pop => exact lasting.pop session
    | popToRoot => exact lasting.popToRoot session
    | store key value => exact lasting.store session key value
    | log line => exact lasting.log session line
    | issue request pending => exact lasting.exchange session _

variable (respects : ∀ entry ∈ interpreter.commands, entry.2.Respects (Keeps relates))
  {bound : Nat} {session : Session} {result : Nat × Session}

include respects

/-- A relation that lasts holds between the start of a run and its end. -/
theorem run
    (lasting : Lasting relates)
    {steps : List Step}
    (ran : interpreter.run bound steps session = some result) :
    relates session result.2 := by
  have pairs : ∀ entry ∈ interpreter.commands,
      entry.2.Pairs (Reaches relates) (id entry.2) := by
    intro entry member frame run payload runs
    obtain rfl : frame.run = run := funext fun node => (reaches_only.mp (runs node)).1
    exact reaches_only.mpr
      ⟨rfl, respects entry member frame payload fun node => (reaches_only.mp (runs node)).2⟩
  exact (lasting.tandem_reaches.run pairs bound steps).2 session result ran

end Lasting
end Session
end Storyboard
