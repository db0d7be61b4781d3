import Storyboard.Proofs.Assignment
import Storyboard.Proofs.Command.Closure
import Storyboard.Proofs.Context.Standing

/-!
# Temporary variables

While the event of an outcome is handled, variables tell of the response and of the
error.  Whatever built-in commands that event consists of, each of these variables is
afterwards as it was before, unless an observer writes it.
-/

namespace Storyboard

/-- Observers stay, and a variable stands where it stood. -/
structure Context.Holds
    (allowed : Update → Prop)
    (name : String)
    (before after : Context) : Prop where
  /-- No observer comes or goes. -/
  observers : after.observers = before.observers
  /-- The variable stands where it stood. -/
  stands : Variables.Stands allowed name before.bindings after.bindings

namespace Context
namespace Holds

variable {allowed : Update → Prop} {name : String}

theorem refl (context : Context) : Holds allowed name context context :=
  ⟨rfl, .refl context.bindings⟩

theorem trans
    {first second third : Context}
    (earlier : Holds allowed name first second)
    (later : Holds allowed name second third) :
    Holds allowed name first third :=
  ⟨later.observers.trans earlier.observers, earlier.stands.trans later.stands⟩

theorem drift
    (sparing : Sparing allowed name)
    {context after : Context}
    (drifts : context.Drifts allowed after) :
    Holds allowed name context after :=
  ⟨drifts.observers, .drift sparing drifts⟩

/-- Observers that stay go on to write what is allowed. -/
theorem within
    {before after : Context}
    (holds : Holds allowed name before after)
    (within : before.Within allowed) :
    after.Within allowed := by
  unfold Within
  rw [holds.observers]
  exact within

/-- A variable stands where it stood when a value is written. -/
theorem set
    (sparing : Sparing allowed name)
    {bound : Nat}
    {other : String}
    {value : Node}
    {context after : Context}
    (within : context.Within allowed)
    (written : context.update bound ⟨other, some value⟩ = some after) :
    Holds allowed name context after := by
  rcases update_cases within written with ⟨_, rfl⟩ | ⟨told, drifts, rfl⟩
  · exact .refl after
  · exact (drift sparing drifts).trans ⟨rfl, .insert told.bindings other value⟩

/-- A variable stands where it stood when one is removed that was not there before. -/
theorem remove
    (sparing : Sparing allowed name)
    {before context after : Context}
    (holds : Holds allowed name before context)
    {bound : Nat}
    {other : String}
    (absent : before.get? other = none)
    (within : context.Within allowed)
    (removed : context.update bound ⟨other, none⟩ = some after) :
    Holds allowed name before after := by
  rcases update_cases within removed with ⟨_, rfl⟩ | ⟨told, drifts, rfl⟩
  · exact holds
  · obtain ⟨observers, stands⟩ := holds.trans (drift sparing drifts)
    exact ⟨observers, stands.erase ((Table.get?_eq_none_iff before.bindings other).mp absent)⟩

end Holds

/-- An update changes no other variable, if observers spare it. -/
theorem get?_of_update
    {allowed : Update → Prop}
    {name : String}
    (sparing : Sparing allowed name)
    {bound : Nat}
    {update : Update}
    (apart : update.name ≠ name)
    {context after : Context}
    (within : context.Within allowed)
    (updated : context.update bound update = some after) :
    after.get? name = context.get? name := by
  rcases update_cases within updated with ⟨_, rfl⟩ | ⟨told, drifts, rfl⟩
  · rfl
  · calc (told.commit update).get? name
      _ = told.get? name := told.bindings.get?_put apart
      _ = context.get? name := Variables.get?_of_drifts sparing drifts

end Context

/-- A variable is absent if it was, and else it has the value it had, or one shallowly equal. -/
structure Context.Restores (name : String) (before after : Context) : Prop where
  /-- What was absent is absent. -/
  absent : before.get? name = none → after.get? name = none
  /-- What was present has its value again. -/
  value : ∀ old, before.get? name = some old →
    ∃ value, after.get? name = some value ∧ (value = old ∨ Node.shallowEq value old = true)

namespace Context
namespace Restores

variable {name : String}

theorem refl (context : Context) : Restores name context context :=
  ⟨id, fun old found => ⟨old, found, Or.inl rfl⟩⟩

/-- What is said of a variable depends on its values alone. -/
theorem congr
    {before after first last : Context}
    (restores : Restores name first last)
    (sameBefore : first.get? name = before.get? name)
    (sameAfter : after.get? name = last.get? name) :
    Restores name before after := by
  constructor
  · rw [← sameBefore, sameAfter]
    exact restores.absent
  · rw [← sameBefore, sameAfter]
    exact restores.value

/-- To write what a variable held restores it. -/
theorem update
    {allowed : Update → Prop}
    (sparing : Sparing allowed name)
    {before context after : Context}
    (holds : Holds allowed name before context)
    {bound : Nat}
    (within : context.Within allowed)
    (updated : context.update bound ⟨name, before.get? name⟩ = some after) :
    Restores name before after := by
  constructor
  · intro absent
    rw [absent] at updated
    rcases update_cases within updated with ⟨unchanged, rfl⟩ | ⟨told, drifts, rfl⟩
    · cases present : after.get? name with
      | none => rfl
      | some value => simp [idle, present] at unchanged
    · have absentKey : name ∉ Table.keys before.bindings :=
        (Table.get?_eq_none_iff before.bindings name).mp absent
      have once : (Table.keys before.bindings).count name ≤ 1 := by
        rw [List.count_eq_zero_of_not_mem absentKey]
        exact Nat.zero_le 1
      exact Table.get?_erase_of_count ((holds.trans (.drift sparing drifts)).stands.once once)
  · intro old found
    rw [found] at updated
    rcases update_cases within updated with ⟨unchanged, rfl⟩ | ⟨told, drifts, rfl⟩
    · cases present : after.get? name with
      | none => simp [idle, present] at unchanged
      | some value => exact ⟨value, rfl, Or.inr (by simpa [idle, present] using unchanged)⟩
    · exact ⟨old, by simp [get?_commit_some], Or.inl rfl⟩

end Restores
end Context

namespace Session

/-- An operation that leaves a variable where it stands. -/
def Steady
    (allowed : Update → Prop)
    (name : String)
    (operation : Session → Option Session) : Prop :=
  ∀ session result : Session, session.context.Within allowed → operation session = some result →
    session.context.Holds allowed name result.context

variable {allowed : Update → Prop} {name : String}

/-- An operation that changes no variable. -/
theorem steady_of_unchanged
    {operation : Session → Session}
    (unchanged : ∀ session : Session, (operation session).context = session.context) :
    Steady allowed name fun session => some (operation session) := by
  intro session result _ finished
  obtain rfl := Option.some.inj finished
  rw [unchanged]
  exact .refl session.context

theorem Steady.andThen
    {first second : Session → Option Session}
    (steadyFirst : Steady allowed name first)
    (steadySecond : Steady allowed name second) :
    Steady allowed name fun session => first session >>= second := by
  intro session result within finished
  obtain ⟨middle, started, finished⟩ := Option.bind_eq_some_iff.mp finished
  have holds := steadyFirst session middle within started
  exact holds.trans (steadySecond middle result (holds.within within) finished)

theorem steady_set
    (sparing : Sparing allowed name)
    (bound : Nat)
    (other : String)
    (value : Node) :
    Steady allowed name fun session => session.update bound ⟨other, some value⟩ := by
  intro session result within updated
  obtain ⟨context, written, rfl⟩ := Option.map_eq_some_iff.mp updated
  exact .set sparing within written

theorem steady_assign
    (sparing : Sparing allowed name)
    (evaluator : Evaluator)
    (bound : Nat)
    (index : Option Nat)
    (path : String)
    (value : Node) :
    Steady allowed name fun session =>
      (session.assign evaluator bound index path value).map Prod.snd := by
  intro session result within assigned
  dsimp only at assigned
  rw [map_snd_assign] at assigned
  cases placed : session.placed? evaluator index path value with
  | none =>
      rw [placed] at assigned
      obtain rfl := Option.some.inj assigned
      exact .refl session.context
  | some update =>
      rw [placed] at assigned
      obtain ⟨other, written⟩ := update
      obtain ⟨node, rfl⟩ := value_of_placed? placed
      exact steady_set sparing bound other node (session.parsed evaluator index path) result within
        assigned

/-- What happens while a variable has a value, up to its restoration. -/
theorem exists_of_during
    {frame : Frame}
    {other : String}
    {value : Node}
    {body : Session → Option Session}
    {session result : Session}
    (finished : frame.during other value body session = some result) :
    ∃ first middle, session.update frame.bound ⟨other, some value⟩ = some first ∧
      body first = some middle ∧
      middle.update frame.bound ⟨other, session.context.get? other⟩ = some result := by
  obtain ⟨first, started, finished⟩ := Option.bind_eq_some_iff.mp finished
  obtain ⟨middle, ran, restored⟩ := Option.bind_eq_some_iff.mp finished
  exact ⟨first, middle, started, ran, restored⟩

/-- A variable stands where it stood after another, or itself, had a value for a while. -/
theorem steady_during
    (sparing : Sparing allowed name)
    (frame : Frame)
    (other : String)
    (value : Node)
    {body : Session → Option Session}
    (steady : Steady allowed name body) :
    Steady allowed name (frame.during other value body) := by
  intro session result within finished
  obtain ⟨first, middle, started, ran, restored⟩ := exists_of_during finished
  have holds := ((steady_set sparing frame.bound other value).andThen steady) session middle within
    (Option.bind_eq_some_iff.mpr ⟨first, started, ran⟩)
  obtain ⟨context, written, rfl⟩ := Option.map_eq_some_iff.mp restored
  cases previous : session.context.get? other with
  | none =>
      rw [previous] at written
      exact holds.remove sparing previous (holds.within within) written
  | some old =>
      rw [previous] at written
      exact holds.trans (.set sparing (holds.within within) written)

/-- Built-in commands leave a variable where it stands, if observers spare it. -/
theorem closed_steady (sparing : Sparing allowed name) : Closed (Steady allowed name) where
  fail _ _ _ impossible := by cases impossible
  stay := steady_of_unchanged fun _ => rfl
  andThen first second := first.andThen second
  evaluate evaluator index node next each := by
    intro session result within finished
    have later := each (session.evaluate evaluator index node).1
      (session.evaluate evaluator index node).2 result
    rw [context_evaluate] at later
    exact later within finished
  assign := steady_assign sparing
  during frame other value body := steady_during sparing frame other value
  note _ := steady_of_unchanged fun _ => rfl
  push id _ next each := by
    intro session result within finished
    exact each (session.onAppear? id) (session.push id) result within finished
  pop := steady_of_unchanged fun _ => rfl
  popToRoot := steady_of_unchanged fun _ => rfl
  store _ _ := steady_of_unchanged fun _ => rfl
  log _ := steady_of_unchanged fun _ => rfl
  issue _ _ := steady_of_unchanged fun _ => rfl

/-- A variable that has a value for a while is restored. -/
theorem restores_of_during
    (sparing : Sparing allowed name)
    {frame : Frame}
    {value : Node}
    {body : Session → Option Session}
    (steady : Steady allowed name body)
    {session result : Session}
    (within : session.context.Within allowed)
    (finished : frame.during name value body session = some result) :
    session.context.Restores name result.context := by
  obtain ⟨first, middle, started, ran, restored⟩ := exists_of_during finished
  have holds := ((steady_set sparing frame.bound name value).andThen steady) session middle within
    (Option.bind_eq_some_iff.mpr ⟨first, started, ran⟩)
  obtain ⟨context, written, rfl⟩ := Option.map_eq_some_iff.mp restored
  exact .update sparing holds (holds.within within) written

/-- A variable that is restored while another has a value is restored. -/
theorem restores_of_during_of_ne
    (sparing : Sparing allowed name)
    {frame : Frame}
    {other : String}
    (apart : other ≠ name)
    {value : Node}
    {body : Session → Option Session}
    (steady : Steady allowed name body)
    (restores : ∀ first middle : Session, first.context.Within allowed →
      body first = some middle → first.context.Restores name middle.context)
    {session result : Session}
    (within : session.context.Within allowed)
    (finished : frame.during other value body session = some result) :
    session.context.Restores name result.context := by
  obtain ⟨first, middle, started, ran, restored⟩ := exists_of_during finished
  have setting := steady_set sparing frame.bound other value session first within started
  have withinFirst := setting.within within
  have withinMiddle := (steady first middle withinFirst ran).within withinFirst
  obtain ⟨context, written, rfl⟩ := Option.map_eq_some_iff.mp restored
  obtain ⟨contextFirst, writtenFirst, rfl⟩ := Option.map_eq_some_iff.mp started
  exact (restores _ middle withinFirst ran).congr
    (Context.get?_of_update sparing apart within writtenFirst)
    (Context.get?_of_update sparing apart withinMiddle written)

end Session

/-- The variables that are set while the event of an outcome is handled. -/
def Settings.temporaries (settings : Settings) : Web.Outcome → List String
  | .ok response =>
      if Web.isSuccess response.status then [settings.responseVariable]
      else [settings.responseVariable, settings.errorVariable]
  | .error _ => [settings.errorVariable]

namespace Frame

variable {allowed : Update → Prop} {name : String} {frame : Frame}

theorem restores_of_handleDuring
    (sparing : Sparing allowed name)
    (runs : ∀ node, Session.Steady allowed name (frame.run node))
    {value : Node}
    {event : Option Node}
    {session result : Session}
    (within : session.context.Within allowed)
    (finished : frame.handleDuring name value event session = some result) :
    session.context.Restores name result.context := by
  cases event with
  | none =>
      obtain rfl := Option.some.inj finished
      exact .refl session.context
  | some event =>
      exact Session.restores_of_during sparing
        ((Session.closed_steady sparing).handle runs event) within finished

/-- The variables that tell of an outcome are restored, be they two or one and the same. -/
theorem restores_of_callBack
    (sparing : Sparing allowed name)
    (runs : ∀ node, Session.Steady allowed name (frame.run node))
    {callbacks : Web.Callbacks}
    {outcome : Web.Outcome}
    (temporary : name ∈ frame.settings.temporaries outcome)
    {session result : Session}
    (within : session.context.Within allowed)
    (finished : frame.callBack callbacks outcome session = some result) :
    session.context.Restores name result.context := by
  cases outcome with
  | error error =>
      obtain rfl := List.mem_singleton.mp temporary
      exact restores_of_handleDuring sparing runs within finished
  | ok response =>
      by_cases success : Web.isSuccess response.status = true
      · rw [Settings.temporaries, if_pos success] at temporary
        rw [callBack, if_pos success] at finished
        obtain rfl := List.mem_singleton.mp temporary
        exact restores_of_handleDuring sparing runs within finished
      · rw [Settings.temporaries, if_neg success] at temporary
        rw [callBack, if_neg success] at finished
        cases handler : callbacks.onError with
        | none =>
            rw [handler] at finished
            obtain rfl := Option.some.inj finished
            exact .refl session.context
        | some event =>
            rw [handler] at finished
            have steadyEvent := (Session.closed_steady sparing).handle runs event
            have steadyError := Session.steady_during sparing frame frame.settings.errorVariable
              ((Web.RequestError.status response.status).report (some response)) steadyEvent
            by_cases same : frame.settings.responseVariable = name
            · subst same
              exact Session.restores_of_during sparing steadyError within finished
            · obtain rfl : name = frame.settings.errorVariable := by
                simpa [Ne.symm same] using temporary
              exact Session.restores_of_during_of_ne sparing same steadyError
                (fun _ _ withinFirst ran =>
                  Session.restores_of_during sparing steadyEvent withinFirst ran)
                within finished

end Frame

namespace Interpreter

/-- When the event of an outcome has been handled, each variable that told of the outcome and that
observers spare is absent if it was absent before, and else has its value, or one shallowly equal,
and its place: nothing has come in front of it, and nothing has gone there unless an observer may
remove variables. -/
theorem temporaries_restored
    (interpreter : Interpreter)
    (index : Option Nat)
    (bound : Nat)
    (callbacks : Web.Callbacks)
    (outcome : Web.Outcome)
    (allowed : Update → Prop)
    (name : String)
    (commands : ∀ entry ∈ interpreter.commands, entry ∈ Command.builtin)
    (temporary : name ∈ interpreter.settings.temporaries outcome)
    (sparing : Sparing allowed name)
    (before after : Session)
    (within : before.context.Within allowed)
    (called : (interpreter.outerFrame index bound).callBack callbacks outcome before =
      some after) :
    before.context.Restores name after.context ∧
      (name ∈ before.context.names →
        (Table.front after.context.bindings name).Sublist
            (Table.front before.context.bindings name) ∧
          (Keeping allowed → Table.front after.context.bindings name =
            Table.front before.context.bindings name)) := by
  have closed := Session.closed_steady sparing
  have respects : ∀ entry ∈ interpreter.commands,
      entry.2.Respects (Session.Steady allowed name) := fun entry member =>
    closed.builtin entry (commands entry member)
  have runs : ∀ node,
      Session.Steady allowed name ((interpreter.outerFrame index bound).run node) :=
    closed.execute respects index bound
  have stands := (closed.callBack runs callbacks outcome before after within called).stands
  refine ⟨Frame.restores_of_callBack sparing runs temporary within called, ?_⟩
  intro present
  exact ⟨stands.behind present, fun keeping => stands.place keeping present⟩

/-- The event of a failure overwrites the error, and an observer notes every change in a variable of
its own: the error has its value and its place again. -/
theorem temporaries_restored_of_overwritten :
    let note : Change → Variables → Reaction := fun change _ =>
      if change.name = "seen" then .rest
      else .write ⟨"seen", some (.string change.name)⟩ fun _ => .rest
    let before : Session :=
      { context :=
          { bindings := [("title", .string "old"), ("_httpRequestError", .string "kept")]
            observers := [⟨0, note⟩]
            nextObserver := 1 } }
    let event : Node :=
      .mapping [("set", .mapping [("var", .string "_httpRequestError"),
        ("value", .string "lost")])]
    let allowed : Update → Prop := fun update => update.name = "seen" ∧ update.value.isSome = true
    Sparing allowed "_httpRequestError" ∧ before.context.Within allowed ∧
      ∃ after, (Interpreter.outerFrame {} none 3).callBack { onError := some event }
          (.ok ⟨500, [], []⟩) before = some after ∧
        before.context.Restores "_httpRequestError" after.context ∧
        Table.front after.context.bindings "_httpRequestError" = ["title"] := by
  intro note before event allowed
  have sparing : Sparing allowed "_httpRequestError" := by
    rintro update ⟨seen, _⟩
    rw [seen]
    decide
  have within : before.context.Within allowed := by
    intro observer member change bindings
    obtain rfl := List.mem_singleton.mp member
    by_cases seen : change.name = "seen"
    · simp [note, seen, Reaction.Within]
    · simp [note, seen, Reaction.Within, allowed]
  have called : ((Interpreter.outerFrame {} none 3).callBack { onError := some event }
      (.ok ⟨500, [], []⟩) before).isSome = true := by decide +kernel
  obtain ⟨after, called⟩ := Option.isSome_iff_exists.mp called
  obtain ⟨restores, stands⟩ := temporaries_restored {} none 3 { onError := some event }
    (.ok ⟨500, [], []⟩) allowed "_httpRequestError" (fun _ builtIn => builtIn) (by decide) sparing
    before after within called
  have keeping : Keeping allowed := fun _ written => written.2
  refine ⟨sparing, within, after, called, restores, ?_⟩
  exact (stands (by decide)).2 keeping

/-- An observer that removes the error when the response is about to change: the error, which was
present before the event of a failure, is absent afterwards. -/
theorem not_restored_of_removing_observer :
    let removal : Change → Variables → Reaction := fun change _ =>
      if change.name = "_httpResponse" then .write ⟨"_httpRequestError", none⟩ fun _ => .rest
      else .rest
    let before : Session :=
      { context :=
          { bindings := [("_httpRequestError", .string "kept")]
            observers := [⟨0, removal⟩]
            nextObserver := 1 } }
    let outcome : Web.Outcome := .ok ⟨500, [], []⟩
    "_httpRequestError" ∈ Settings.temporaries {} outcome ∧
      before.context.get? "_httpRequestError" = some (.string "kept") ∧
      ∃ after, (Interpreter.outerFrame {} none 1).callBack { onError := some (.sequence []) }
          outcome before = some after ∧
        after.context.get? "_httpRequestError" = none ∧
        ¬ before.context.Restores "_httpRequestError" after.context := by
  intro removal before outcome
  have called : ((Interpreter.outerFrame {} none 1).callBack { onError := some (.sequence []) }
      outcome before).map (fun after => after.context.bindings) = some [] := rfl
  obtain ⟨after, called, empty⟩ := Option.map_eq_some_iff.mp called
  have absent : after.context.get? "_httpRequestError" = none := by
    rw [Context.get?, empty]
    rfl
  refine ⟨by decide, rfl, after, called, absent, fun restores => ?_⟩
  obtain ⟨value, present, _⟩ := restores.value (.string "kept") rfl
  rw [absent] at present
  cases present

end Interpreter
end Storyboard
