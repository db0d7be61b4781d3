import Storyboard.Interpreter
import Storyboard.Proofs.Table

/-!
# Two operations side by side

Commands are composed of a few operations on a session: evaluation, assignment, a
variable that has a value for a while, navigation, storing, logging, and issuing a
request.  A relation of operations that all of these keep, between one frame and another
in which commands may nest more or less deeply, is therefore kept by everything that
built-in commands do, if the commands inside keep it.
-/

namespace Storyboard

/-- A frame with another bound and another way to carry out commands inside. -/
def Frame.widen (frame : Frame) (bound : Nat) (run : Node → Session → Option Session) : Frame :=
  { frame with bound := bound, run := run }

/-- What a frame evaluates to does not depend on how deep commands may nest. -/
theorem Frame.evaluate_widen
    (frame : Frame)
    (bound : Nat)
    (run : Node → Session → Option Session) :
    (frame.widen bound run).evaluate = frame.evaluate := rfl

/-- The first of a list of commands is run before the others. -/
theorem Frame.runAll_cons
    (frame : Frame)
    (command : Node)
    (rest : List Node)
    (session : Session) :
    frame.runAll (command :: rest) session = frame.run command session >>= frame.runAll rest := by
  rw [runAll, List.foldlM_cons]
  rfl

namespace Session

/-- A change of a session that looks at nothing but what it changes. -/
inductive Edit where
  /-- The record of a deed. -/
  | note (deed : Deed)
  /-- The opening of a screen. -/
  | push (id : String)
  /-- Closing the top screen. -/
  | pop
  /-- Closing all screens above the root. -/
  | popToRoot
  /-- Storing a value. -/
  | store (key : String) (value : Node)
  /-- Logging a line. -/
  | log (line : String)
  /-- Issuing a request. -/
  | issue (request : Web.Request) (pending : Web.Pending)

/-- A session after a change. -/
def edit (session : Session) : Edit → Session
  | .note deed => session.note deed
  | .push id => session.push id
  | .pop => { session with navigation := session.navigation.pop }
  | .popToRoot => { session with navigation := session.navigation.popToRoot }
  | .store key value => session.store key value
  | .log line => session.log line
  | .issue request pending => session.issue request pending

/-- An operation with a value: what follows is related if it is for every value. -/
def Couples
    {α : Type}
    (relates : (Session → Option Session) → (Session → Option Session) → Prop)
    (operation : Session → α × Session) : Prop :=
  ∀ next other : α → Session → Option Session, (∀ value, relates (next value) (other value)) →
    relates
      (fun session =>
        match operation session with
        | (value, session) => next value session)
      (fun session =>
        match operation session with
        | (value, session) => other value session)

/-- A relation of operations that the operations of commands have and composition keeps, where the
bounds of two frames are related too. -/
structure Coupled
    (near : Nat → Nat → Prop)
    (relates : (Session → Option Session) → (Session → Option Session) → Prop) : Prop where
  /-- Doing nothing. -/
  stay : relates some some
  /-- One operation after another. -/
  andThen : ∀ {first second other another : Session → Option Session},
    relates first other → relates second another →
      relates (fun session => first session >>= second) fun session => other session >>= another
  /-- An evaluation. -/
  evaluate : ∀ (evaluator : Evaluator) (index : Option Nat) (node : Node),
    Couples relates fun session => session.evaluate evaluator index node
  /-- An assignment. -/
  assign : ∀ (evaluator : Evaluator) {bound more : Nat}, near bound more →
    ∀ (index : Option Nat) (path : String) (value : Node),
      relates (fun session => (session.assign evaluator bound index path value).map Prod.snd)
        fun session => (session.assign evaluator more index path value).map Prod.snd
  /-- An operation while a variable has a value. -/
  during : ∀ {frame other : Frame}, near frame.bound other.bound →
    ∀ (name : String) (value : Node) {body twin : Session → Option Session},
      relates body twin → relates (frame.during name value body) (other.during name value twin)
  /-- The opening of a screen that may have an event; it has a name. -/
  push : ∀ id : String, id ≠ "" →
    Couples relates fun session => (session.onAppear? id, session.push id)
  /-- Any other change, which looks at nothing else. -/
  edit : ∀ edit : Edit, (∀ id, edit ≠ .push id) →
    relates (fun session => some (session.edit edit)) fun session => some (session.edit edit)

end Session

/-- A command that does related things in two frames in which the commands inside do. -/
def Command.Couples
    (near : Nat → Nat → Prop)
    (relates : (Session → Option Session) → (Session → Option Session) → Prop)
    (command : Command) : Prop :=
  ∀ (frame : Frame) (bound : Nat) (run : Node → Session → Option Session) (payload : Node),
    near frame.bound bound → (∀ node, relates (frame.run node) (run node)) →
      relates (command frame payload) (command (frame.widen bound run) payload)

namespace Session
namespace Coupled

variable {near : Nat → Nat → Prop}
  {relates : (Session → Option Session) → (Session → Option Session) → Prop}
  (coupled : Coupled near relates)

include coupled

theorem evaluateNode
    (frame : Frame)
    (node : Node) :
    Session.Couples relates (frame.evaluate node) :=
  coupled.evaluate frame.evaluator frame.index node

theorem evaluateField
    (frame : Frame)
    (payload : Node)
    (key : String) :
    Session.Couples relates (frame.evaluateField payload key) := by
  intro next other each
  cases found : payload.get? key with
  | none =>
      simpa only [Frame.evaluateField, Session.evaluateField, found] using each .null
  | some node =>
      simpa only [Frame.evaluateField, Session.evaluateField, found] using
        coupled.evaluate frame.evaluator frame.index node next other each

/-- A field that is looked at, and what is done with it. -/
theorem look
    {α β : Type}
    (frame : Frame)
    (payload : Node)
    (key : String)
    (check : Node → Except Web.RequestError α)
    {next : α → Session → Except Web.RequestError β × Session}
    (passes : ∀ value, Session.Couples relates (next value)) :
    Session.Couples relates (Web.look (frame.evaluateField payload) key check next) := by
  intro last other each
  have proceeds := coupled.evaluateField frame payload key
    (fun node session =>
      last (Web.proceed check next node session).1 (Web.proceed check next node session).2)
    (fun node session =>
      other (Web.proceed check next node session).1 (Web.proceed check next node session).2)
  refine proceeds fun node => ?_
  unfold Web.proceed
  cases check node with
  | error error => exact each (.error error)
  | ok value => exact passes value last other each

/-- The draft of a request. -/
theorem draft
    (frame : Frame)
    (payload : Node) :
    Session.Couples relates (frame.rules.draft (frame.evaluateField payload)) := by
  refine coupled.look frame payload "url" frame.rules.address fun url => ?_
  refine coupled.look frame payload "method" frame.rules.verb fun method => ?_
  refine coupled.look frame payload "headers" frame.rules.headers fun headers => ?_
  refine coupled.look frame payload "body" Web.content fun body => ?_
  exact fun last other each => each (.ok (.make url method headers body))

section Events

variable {frame : Frame} (bound : Nat) {run : Node → Session → Option Session}
  (runs : ∀ node, relates (frame.run node) (run node))

include runs

/-- A list of commands, by induction on the list. -/
theorem runAll (commands : List Node) :
    relates (frame.runAll commands) ((frame.widen bound run).runAll commands) := by
  induction commands with
  | nil => exact coupled.stay
  | cons command rest inductionHypothesis =>
      have unfolded : ∀ frame : Frame, frame.runAll (command :: rest) =
          fun session => frame.run command session >>= frame.runAll rest :=
        fun frame => funext (frame.runAll_cons command rest)
      rw [unfolded, unfolded]
      exact coupled.andThen (runs command) inductionHypothesis

/-- An event. -/
theorem handle (event : Node) :
    relates (frame.handle event) ((frame.widen bound run).handle event) := by
  cases event with
  | mapping entries => exact runs (.mapping entries)
  | sequence commands => exact coupled.runAll bound runs commands
  | null | bool | number | string => exact coupled.stay

/-- An event that may be missing. -/
theorem handle? (event : Option Node) :
    relates (frame.handle? event) ((frame.widen bound run).handle? event) := by
  cases event with
  | none => exact coupled.stay
  | some event => exact coupled.handle bound runs event

variable {bound} (nearby : near frame.bound bound)

include nearby

theorem handleDuring
    (name : String)
    (value : Node)
    (event : Option Node) :
    relates (frame.handleDuring name value event)
      ((frame.widen bound run).handleDuring name value event) := by
  cases event with
  | none => exact coupled.stay
  | some event => exact coupled.during nearby name value (coupled.handle bound runs event)

omit runs in
theorem keepOutcome
    (pending : Web.Pending)
    (outcome : Web.Outcome) :
    relates (frame.keepOutcome pending outcome)
      ((frame.widen bound run).keepOutcome pending outcome) := by
  cases outcome with
  | error error => exact coupled.stay
  | ok response =>
      unfold Frame.keepOutcome
      by_cases success : Web.isSuccess response.status = true
      · simp only [success, if_true]
        cases pending.target with
        | none => exact coupled.stay
        | some path => exact coupled.assign frame.evaluator nearby frame.index path _
      · simp only [success]
        exact coupled.stay

/-- The event of an outcome. -/
theorem callBack
    (callbacks : Web.Callbacks)
    (outcome : Web.Outcome) :
    relates (frame.callBack callbacks outcome)
      ((frame.widen bound run).callBack callbacks outcome) := by
  cases outcome with
  | error error => exact coupled.handleDuring runs nearby _ _ callbacks.onError
  | ok response =>
      unfold Frame.callBack
      by_cases success : Web.isSuccess response.status = true
      · simp only [success, if_true]
        exact coupled.handleDuring runs nearby _ _ callbacks.onSuccess
      · simp only [success]
        cases callbacks.onError with
        | none => exact coupled.stay
        | some event =>
            exact coupled.during nearby _ _
              (coupled.during nearby _ _ (coupled.handle bound runs event))

/-- The end of a request. -/
theorem complete
    (pending : Web.Pending)
    (outcome : Web.Outcome) :
    relates (frame.complete pending outcome)
      ((frame.widen bound run).complete pending outcome) := by
  have settles : relates (frame.settleOutcome pending outcome)
      ((frame.widen bound run).settleOutcome pending outcome) :=
    coupled.andThen (coupled.keepOutcome nearby pending outcome)
      (coupled.callBack runs nearby pending.callbacks outcome)
  exact coupled.andThen settles (coupled.handle? bound runs pending.callbacks.onFinally)

/-! ## The built-in commands -/

omit runs nearby in
theorem storeUnder
    (payload : Node)
    (key : Node) :
    relates (Command.storeUnder frame payload key)
      (Command.storeUnder (frame.widen bound run) payload key) := by
  cases key with
  | string key =>
      unfold Command.storeUnder
      by_cases empty : key = ""
      · simpa only [empty, if_true] using coupled.stay
      · simp only [empty, if_false]
        exact coupled.evaluateField frame payload "value" _ _ fun value =>
          coupled.edit (.store key value) nofun
  | null | bool | number | sequence | mapping => exact coupled.stay

omit nearby in
theorem enter (value : Node) :
    relates (Command.enter frame value) (Command.enter (frame.widen bound run) value) := by
  unfold Command.enter
  cases named : Command.screenId? value with
  | none => exact coupled.stay
  | some id =>
      exact coupled.push id (Command.ne_empty_of_screenId? named) _ _ fun event =>
        coupled.handle? bound runs event

theorem dispatch
    (pending : Web.Pending)
    (drafted : Except Web.RequestError Web.Request) :
    relates (Command.dispatch frame pending drafted)
      (Command.dispatch (frame.widen bound run) pending drafted) := by
  cases drafted with
  | ok request => exact coupled.edit (.issue request pending) nofun
  | error error =>
      cases silent : error.isSilent with
      | true =>
          have unfolded : ∀ frame, Command.dispatch frame pending (.error error) = some :=
            fun frame => funext fun session => by simp [Command.dispatch, silent]
          rw [unfolded, unfolded]
          exact coupled.stay
      | false =>
          have unfolded : ∀ frame : Frame, Command.dispatch frame pending (.error error) =
              frame.complete pending (.error error) :=
            fun frame => funext fun session => by simp [Command.dispatch, silent]
          rw [unfolded, unfolded]
          exact coupled.complete runs nearby pending (.error error)

end Events

theorem assignAt (key : String) : (Command.assignAt key).Couples near relates := by
  intro frame bound run payload nearby runs
  unfold Command.assignAt
  cases (payload.get? key).bind Node.asString? with
  | none => exact coupled.stay
  | some path =>
      exact coupled.evaluateField frame payload "value" _ _ fun value =>
        coupled.assign frame.evaluator nearby frame.index path value

theorem inSequence : Command.inSequence.Couples near relates := by
  intro frame bound run payload nearby runs
  cases payload with
  | sequence commands => exact coupled.runAll bound runs commands
  | null | bool | number | string | mapping => exact coupled.stay

theorem branch : Command.branch.Couples near relates := by
  intro frame bound run payload nearby runs
  cases payload with
  | mapping entries =>
      let event := fun condition : Node =>
        (Table.get? entries (if condition.isTrue then "then" else "else")).filter
          Command.isContainer
      exact coupled.evaluateField frame (.mapping entries) "condition"
        (fun condition => frame.handle? (event condition))
        (fun condition => (frame.widen bound run).handle? (event condition)) fun condition =>
          coupled.handle? bound runs (event condition)
  | null | bool | number | string | sequence => exact coupled.stay

theorem navigate : Command.navigate.Couples near relates := by
  intro frame bound run payload nearby runs
  unfold Command.navigate
  rw [Frame.evaluate_widen]
  exact coupled.evaluateNode frame payload (Command.enter frame)
    (Command.enter (frame.widen bound run)) fun value => coupled.enter runs value

theorem storeRecord : Command.store.Couples near relates := by
  intro frame bound run payload nearby runs
  exact coupled.evaluateField frame payload "key" (Command.storeUnder frame payload)
    (Command.storeUnder (frame.widen bound run) payload) fun key => coupled.storeUnder payload key

theorem logRecord : Command.log.Couples near relates := by
  intro frame bound run payload nearby runs
  unfold Command.log
  rw [Frame.evaluate_widen]
  exact coupled.evaluateNode frame payload _ _ fun message =>
    coupled.edit (.log message.display) nofun

theorem request : Command.request.Couples near relates := by
  intro frame bound run payload nearby runs
  cases payload with
  | mapping entries =>
      refine coupled.evaluateField frame (.mapping entries) "var"
        (Command.requestTo frame (.mapping entries))
        (Command.requestTo (frame.widen bound run) (.mapping entries)) fun target => ?_
      let pending : Web.Pending :=
        ⟨.ofPayload (.mapping entries), Command.target? target, frame.index⟩
      exact coupled.draft frame (.mapping entries) (Command.dispatch frame pending)
        (Command.dispatch (frame.widen bound run) pending) fun drafted =>
          coupled.dispatch runs nearby pending drafted
  | null | bool | number | string | sequence => exact coupled.stay

/-- Every built-in command keeps a relation that its operations keep. -/
theorem builtin :
    ∀ entry ∈ Command.builtin, entry.2.Couples near relates := by
  intro entry member
  simp only [Command.builtin, List.mem_cons, List.not_mem_nil, or_false] at member
  rcases member with rfl | rfl | rfl | rfl | rfl | rfl | rfl | rfl | rfl | rfl
  · exact coupled.assignAt "var"
  · exact coupled.assignAt "path"
  · exact coupled.inSequence
  · exact coupled.branch
  · exact coupled.navigate
  · exact fun _ _ _ _ _ _ => coupled.edit .pop nofun
  · exact fun _ _ _ _ _ _ => coupled.edit .popToRoot nofun
  · exact coupled.storeRecord
  · exact coupled.logRecord
  · exact coupled.request

end Coupled
end Session
end Storyboard
