import Storyboard.Proofs.Context.Course
import Storyboard.Proofs.Context.Levels
import Storyboard.Proofs.Context.Quiet

/-!
# Observers that write

An update comes to an end exactly where its announcement has a course, and what becomes of the
context can be read off the course: nothing that observers write while a change is announced is
lost to the change.
-/

namespace Storyboard

namespace Context

open Announcing

/-- A context after the events of a course that leaves certain variables. -/
def advance (context : Context) (events : List Event) (left : Variables) : Context :=
  { context with
    bindings := left
    revision := context.revision + (changes events).length
    notices := context.notices ++ calls events }

theorem advance_nil (context : Context) : context.advance [] context.bindings = context := by
  simp [advance]

theorem advance_advance
    (context : Context)
    (events later : List Event)
    (middle left : Variables) :
    (context.advance events middle).advance later left =
      context.advance (events ++ later) left := by
  simp [advance, Nat.add_assoc]

/-- The change that ends the course of an update. -/
theorem commit_advance
    (context : Context)
    (events : List Event)
    (left : Variables)
    (announced : List String)
    (update : Update) :
    (context.advance events left).commit update =
      context.advance (events ++ [.change announced update]) (left.put update) := by
  obtain ⟨name, value⟩ := update
  cases value <;> simp [advance, commit, Variables.put, Nat.add_assoc]

theorem idle_iff_holds
    (context : Context)
    (update : Update) :
    context.idle update = true ↔ context.bindings.Holds update := by
  obtain ⟨name, value⟩ := update
  have same : context.get? name = Table.get? context.bindings name := rfl
  cases value <;> cases found : Table.get? context.bindings name <;>
    simp [idle, Variables.Holds, same, found]

end Context

namespace Announcing

variable {observers : List Observer}

/-! ## Every course is run -/

open Context

/-- Wherever the observers and the variables are these, what is run comes to events that leave
certain variables. -/
def Runs (observers : List Observer) (bindings : Variables) (run : Context → Option Context)
    (events : List Event) (left : Variables) : Prop :=
  ∀ context : Context, context.observers = observers → context.bindings = bindings →
    run context = some (context.advance events left)

theorem runs_some
    (observers : List Observer)
    (bindings : Variables) :
    Runs observers bindings some [] bindings := by
  rintro context - rfl
  rw [advance_nil]

theorem Runs.bind
    {bindings middle left : Variables}
    {run next : Context → Option Context}
    {events later : List Event}
    (first : Runs observers bindings run events middle)
    (others : Runs observers middle next later left) :
    Runs observers bindings (fun context => (run context).bind next) (events ++ later) left := by
  intro context sameObservers same
  have further := others (context.advance events middle) sameObservers rfl
  calc (run context).bind next
      = next (context.advance events middle) := by
        rw [first context sameObservers same, Option.bind_some]
    _ = some (context.advance (events ++ later) left) := by rw [further, advance_advance]

/-- Calling an observer is noted, and then its reaction is followed. -/
theorem Runs.tell
    {write : Update → Context → Option Context}
    {bindings left : Variables}
    {change : Change}
    {observer : Observer}
    {events : List Event}
    (follows : Runs observers bindings (Context.follow write (observer.react change bindings))
      events left) :
    Runs observers bindings (fun context => Context.tell write change context observer)
      (.call ⟨observer.id, change, Table.get? bindings change.name⟩ :: events) left := by
  rintro context sameObservers rfl
  have told : Context.tell write change context observer = _ :=
    follows { context with notices := context.notices ++
      [⟨observer.id, change, context.get? change.name⟩] } sameObservers rfl
  refine told.trans (congrArg some ?_)
  simp [advance, get?]

/-- A write is made, and then the others, which are chosen on sight of what it left. -/
theorem Runs.follow
    {write : Update → Context → Option Context}
    {update : Update}
    {next : Variables → Reaction}
    {bindings middle left : Variables}
    {events later : List Event}
    (writes : Runs observers bindings (write update) events middle)
    (others : Runs observers middle (Context.follow write (next middle)) later left) :
    Runs observers bindings (Context.follow write (.write update next)) (events ++ later) left := by
  refine writes.bind fun context sameObservers same => ?_
  rw [same]
  exact others context sameObservers same

/-- An update that counts is announced, and then it is made. -/
theorem Runs.updateBy
    {write : Update → Context → Option Context}
    {bindings left : Variables}
    {update : Update}
    {events : List Event}
    (counts : ¬ bindings.Holds update)
    (tells : Runs observers bindings (fun context => observers.foldlM
      (Context.tell write ⟨update.name, Table.get? bindings update.name, update.value⟩) context)
      events left)
    (announced : List String) :
    Runs observers bindings (Context.updateBy write update)
      (events ++ [.change announced update]) (left.put update) := by
  rintro context rfl rfl
  have busy : ¬ context.idle update = true :=
    fun idle => counts ((context.idle_iff_holds update).mp idle)
  have told : context.announce write update = some (context.advance events left) :=
    tells context rfl rfl
  rw [Context.updateBy, if_neg busy, told, Option.map_some, commit_advance]

mutual

/-- The course of an update is run wherever observers may nest deep enough, by induction on the
course. -/
theorem Updates.exists_bound
    {announced : List String}
    {update : Update}
    {bindings left : Variables}
    {events : List Event}
    (updates : Updates observers announced update bindings events left) :
    ∃ bound, ∀ more, bound ≤ more →
      Runs observers bindings (Context.update more update) events left :=
  match updates with
  | .idle holds => by
      refine ⟨0, fun more _ context _ same => ?_⟩
      subst same
      rw [update_eq, updateBy_of_idle _ ((context.idle_iff_holds update).mpr holds), advance_nil]
  | .change counts tells => by
      obtain ⟨bound, runs⟩ := tells.exists_bound
      refine ⟨bound, fun more enough => ?_⟩
      rw [update_eq]
      exact (runs more enough).updateBy counts announced

theorem Tells.exists_bound
    {announced : List String}
    {change : Change}
    {asked : List Observer}
    {bindings left : Variables}
    {events : List Event}
    (tells : Tells observers announced change asked bindings events left) :
    ∃ bound, ∀ more, bound ≤ more →
      Runs observers bindings (fun context => asked.foldlM (tell (nested more) change) context)
        events left :=
  match tells with
  | .done => ⟨0, fun _ _ => runs_some observers bindings⟩
  | .call first others => by
      obtain ⟨bound, reacts⟩ := first.exists_bound
      obtain ⟨boundOthers, runs⟩ := others.exists_bound
      refine ⟨max bound boundOthers, fun more enough => ?_⟩
      have calls := (reacts more (by omega)).tell
      exact calls.bind (runs more (by omega))

theorem Reacts.exists_bound
    {announced : List String}
    {reaction : Reaction}
    {bindings left : Variables}
    {events : List Event}
    (reacts : Reacts observers announced reaction bindings events left) :
    ∃ bound, ∀ more, bound ≤ more →
      Runs observers bindings (follow (nested more) reaction) events left :=
  match reacts with
  | .rest => ⟨0, fun _ _ => runs_some observers bindings⟩
  | .write first others => by
      obtain ⟨bound, updates⟩ := first.exists_bound
      obtain ⟨boundOthers, runs⟩ := others.exists_bound
      -- The announcement of a write takes place one level below the reaction.
      refine ⟨max bound boundOthers + 1, fun more enough => ?_⟩
      obtain ⟨more, rfl⟩ := Nat.exists_eq_succ_of_ne_zero (show more ≠ 0 by omega)
      exact (updates more (by omega)).follow (runs (more + 1) (by omega))

end

/-! ## Every run has a course -/

/-- A way to write that takes a course wherever it comes to an end, whatever is announced. -/
def Charted (write : Update → Context → Option Context) : Prop :=
  ∀ (announced : List String) (update : Update) (context after : Context),
    write update context = some after →
      ∃ events left, Updates context.observers announced update context.bindings events left ∧
        after = context.advance events left

section Charted

variable {write : Update → Context → Option Context} (charted : Charted write)
  (announced : List String)

include charted

/-- A reaction that comes to an end has a course, by induction on its writes. -/
theorem Charted.follow
    {reaction : Reaction}
    {context after : Context}
    (followed : Context.follow write reaction context = some after) :
    ∃ events left, Reacts context.observers announced reaction context.bindings events left ∧
      after = context.advance events left := by
  induction reaction generalizing context with
  | rest =>
      obtain rfl := Option.some.inj followed
      exact ⟨[], context.bindings, .rest, context.advance_nil.symm⟩
  | write update next inductionHypothesis =>
      obtain ⟨_, written, followed⟩ := Option.bind_eq_some_iff.mp followed
      obtain ⟨events, middle, updates, rfl⟩ := charted announced update context _ written
      obtain ⟨later, left, others, rfl⟩ := inductionHypothesis middle followed
      exact ⟨events ++ later, left, .write updates others, context.advance_advance ..⟩

/-- Calls of observers that come to an end have a course, by induction on the observers. -/
theorem Charted.foldlM_tell
    (change : Change)
    {asked : List Observer}
    {context after : Context}
    (told : asked.foldlM (Context.tell write change) context = some after) :
    ∃ events left, Tells context.observers announced change asked context.bindings events left ∧
      after = context.advance events left := by
  induction asked generalizing context with
  | nil =>
      obtain rfl := Option.some.inj told
      exact ⟨[], context.bindings, .done, context.advance_nil.symm⟩
  | cons observer rest inductionHypothesis =>
      rw [List.foldlM_cons] at told
      obtain ⟨_, first, told⟩ := Option.bind_eq_some_iff.mp told
      obtain ⟨events, middle, reacts, rfl⟩ := charted.follow announced first
      obtain ⟨later, left, others, rfl⟩ := inductionHypothesis told
      exact ⟨_, left, .call reacts others, by simp [advance, get?, Nat.add_assoc]⟩

theorem Charted.updateBy : Charted (Context.updateBy write) := by
  intro announced update context after updated
  unfold Context.updateBy at updated
  split at updated
  · next idle =>
      obtain rfl := Option.some.inj updated
      exact ⟨[], context.bindings, .idle ((context.idle_iff_holds update).mp idle),
        context.advance_nil.symm⟩
  · next busy =>
      obtain ⟨_, told, rfl⟩ := Option.map_eq_some_iff.mp updated
      obtain ⟨events, left, tells, rfl⟩ :=
        charted.foldlM_tell (update.name :: announced) _ told
      have counts : ¬ context.bindings.Holds update :=
        fun holds => busy ((context.idle_iff_holds update).mpr holds)
      exact ⟨_, _, .change counts tells, context.commit_advance events left announced update⟩

end Charted

/-- However deep observers nest, what they write takes a course, by induction on the depth. -/
theorem charted_nested (bound : Nat) : Charted (nested bound) := by
  induction bound with
  | zero => exact fun _ _ _ _ impossible => by cases impossible
  | succ bound inductionHypothesis =>
      have deeper : nested (bound + 1) = Context.updateBy (nested bound) := update_eq bound
      rw [deeper]
      exact inductionHypothesis.updateBy

end Announcing

namespace Context

open Announcing

/-! ## The outermost change -/

/-- All that happens while an update of a context is announced, and the variables it leaves. -/
def Course (context : Context) (update : Update) (events : List Event) (left : Variables) : Prop :=
  Tells context.observers [update.name] (context.changeOf update) context.observers
    context.bindings events left

/-- What an update comes to whose announcement took a course: nothing that was written meanwhile is
lost. -/
structure Made (context : Context) (update : Update) (events : List Event) (left : Variables)
    (after : Context) : Prop where
  /-- The variables that are left come from the changes in the course. -/
  left_eq : left = (changes events).foldl Variables.put context.bindings
  /-- The update is made on the variables that are left. -/
  bindings : after.bindings = left.put update
  /-- Every change in the course counts, and the update. -/
  revision : after.revision = context.revision + (changes events).length + 1
  /-- The calls in the course are the calls that were made. -/
  notices : after.notices = context.notices ++ calls events
  /-- Of the update every observer was told once, in order, while the variable was as before. -/
  told : ((calls events).filter fun notice => notice.change.name == update.name) =
    context.observers.map fun observer =>
      ⟨observer.id, context.changeOf update, context.get? update.name⟩
  /-- No observer comes or goes. -/
  observers : after.observers = context.observers

section Course

variable {context : Context} {update : Update} {events : List Event} {left : Variables}

theorem Course.made
    (course : context.Course update events left)
    (undisturbed : Undisturbed events) :
    context.Made update events left ((context.advance events left).commit update) where
  left_eq := course.left_eq
  bindings := rfl
  revision := rfl
  notices := rfl
  told := course.filter_calls undisturbed List.mem_cons_self
  observers := rfl

/-- An announcement that comes to an end has a course. -/
theorem exists_course
    {bound : Nat}
    {told : Context}
    (announced : context.announce (nested bound) update = some told) :
    ∃ events left, context.Course update events left ∧ told = context.advance events left :=
  (charted_nested bound).foldlM_tell [update.name] (context.changeOf update) announced

/-- An announcement that has a course comes to an end where observers may nest deep enough, and
never comes to anything else. -/
theorem Course.announce
    (course : context.Course update events left) :
    (∃ bound, context.announce (nested bound) update = some (context.advance events left)) ∧
      ∀ bound told, context.announce (nested bound) update = some told →
        told = context.advance events left := by
  obtain ⟨enough, runs⟩ := course.exists_bound
  have announced (more : Nat) (atLeast : enough ≤ more) :
      context.announce (nested more) update = some (context.advance events left) :=
    runs more atLeast context rfl rfl
  refine ⟨⟨enough, announced enough (Nat.le_refl enough)⟩, fun bound told ends => ?_⟩
  have deeper : context.announce (nested (max bound enough)) update = some told :=
    foldlM_tell_of_extends (nested_of_le (Nat.le_max_left bound enough)) _ ends
  rw [announced _ (Nat.le_max_right bound enough)] at deeper
  exact (Option.some.inj deeper).symm

end Course

section Finishing

variable {context : Context} {update : Update} {Result : Type} {run : Nat → Option Result}
  {finish : Context → Result}
  (runs : ∀ bound, run bound = (context.announce (nested bound) update).map finish)

include runs

/-- What only finishes an announcement comes to an end exactly where the announcement has a
course. -/
theorem exists_eq_some_iff_course :
    (∃ bound result, run bound = some result) ↔
      ∃ events left, context.Course update events left := by
  constructor
  · rintro ⟨bound, result, ends⟩
    rw [runs] at ends
    obtain ⟨told, announced, -⟩ := Option.map_eq_some_iff.mp ends
    obtain ⟨events, left, course, -⟩ := exists_course announced
    exact ⟨events, left, course⟩
  · rintro ⟨events, left, course⟩
    obtain ⟨⟨bound, announced⟩, -⟩ := course.announce
    exact ⟨bound, finish (context.advance events left), by rw [runs, announced]; rfl⟩

/-- What only finishes an announcement finishes what its course leaves. -/
theorem Course.ends
    {events : List Event}
    {left : Variables}
    (course : context.Course update events left) :
    (∃ bound, run bound = some (finish (context.advance events left))) ∧
      ∀ bound result, run bound = some result → result = finish (context.advance events left) := by
  obtain ⟨⟨enough, announced⟩, unique⟩ := course.announce
  refine ⟨⟨enough, by rw [runs, announced]; rfl⟩, fun bound result ends => ?_⟩
  rw [runs] at ends
  obtain ⟨told, announced, rfl⟩ := Option.map_eq_some_iff.mp ends
  rw [unique bound told announced]

end Finishing

/-- A value that is not shallowly equal to the present one is announced and then set. -/
theorem set_of_fresh
    {context : Context}
    {name : String}
    {value : Node}
    (fresh : ∀ current, context.get? name = some current → Node.shallowEq current value = false)
    (bound : Nat) :
    context.set bound name value =
      (context.announce (nested bound) ⟨name, some value⟩).map fun told =>
        told.commit ⟨name, some value⟩ := by
  have busy : context.idle ⟨name, some value⟩ = false := by
    unfold idle
    cases found : context.get? name with
    | none => rfl
    | some current => exact fresh current found
  rw [set, update_eq, updateBy, busy]
  rfl

/-- The removal of a variable that is set is announced, and then the variable is taken out. -/
theorem take_of_get?_eq_some
    {context : Context}
    {name : String}
    {old : Node}
    (found : context.get? name = some old)
    (bound : Nat) :
    context.take bound name =
      (context.announce (nested bound) ⟨name, none⟩).map fun told =>
        (told.get? name, told.commit ⟨name, none⟩) := by
  have busy : context.idle ⟨name, none⟩ = false := by simp [idle, found]
  rw [take, busy]
  rfl

/-- Nothing that observers write meanwhile is lost.  To set a variable to a value that is not
shallowly equal to the present one comes to an end exactly where the announcement has a course.  If
no variable is changed in it while a change of it is announced, the context comes to the variables
that the observers left with the new value, and every observer was told of it once.  The same holds
of taking a variable out, which returns the value that it had. -/
theorem set_and_take_of_undisturbed
    (context : Context)
    (name : String) :
    (∀ value, (∀ current, context.get? name = some current →
        Node.shallowEq current value = false) →
      ((∃ bound after, context.set bound name value = some after) ↔
        ∃ events left, context.Course ⟨name, some value⟩ events left) ∧
      ∀ events left, context.Course ⟨name, some value⟩ events left → Undisturbed events →
        ∃ after, context.Made ⟨name, some value⟩ events left after ∧
          (∃ bound, context.set bound name value = some after) ∧
          ∀ bound result, context.set bound name value = some result → result = after) ∧
    (∀ old, context.get? name = some old →
      ((∃ bound result, context.take bound name = some result) ↔
        ∃ events left, context.Course ⟨name, none⟩ events left) ∧
      ∀ events left, context.Course ⟨name, none⟩ events left → Undisturbed events →
        ∃ after, context.Made ⟨name, none⟩ events left after ∧
          (∃ bound, context.take bound name = some (some old, after)) ∧
          ∀ bound result, context.take bound name = some result → result = (some old, after)) := by
  refine ⟨fun value fresh => ?_, fun old found => ?_⟩
  · have runs := set_of_fresh fresh
    refine ⟨exists_eq_some_iff_course runs, fun events left course undisturbed => ?_⟩
    exact ⟨_, course.made undisturbed, course.ends runs⟩
  · have runs := take_of_get?_eq_some found
    refine ⟨exists_eq_some_iff_course runs, fun events left course undisturbed => ?_⟩
    -- No observer has removed the variable or given it another value when it is taken out.
    have stays : (context.advance events left).get? name = some old :=
      (Tells.get?_left undisturbed course List.mem_cons_self).trans found
    have ends := course.ends runs
    rw [stays] at ends
    exact ⟨_, course.made undisturbed, ends⟩

/-- The reaction of an observer that keeps what a variable was before its change. -/
def keepFormer (change : Change) (_ : Variables) : Reaction :=
  match change.old with
  | some old => .write ⟨"former", some old⟩ fun _ => .rest
  | none => .rest

/-- A title with an observer that keeps former values and one that only watches. -/
def titled : Context :=
  { bindings := [("title", .string "draft")]
    observers := [⟨0, keepFormer⟩, ⟨1, Observer.watch⟩]
    nextObserver := 2 }

/-- Whatever the title is to become, its former value is kept while this is announced. -/
theorem exists_course_titled (value : Option Node) :
    ∃ events,
      titled.Course ⟨"title", value⟩ events
        [("title", .string "draft"), ("former", .string "draft")] ∧
      Undisturbed events ∧ (changes events).length = 1 := by
  have unset : ¬ titled.bindings.Holds ⟨"former", some (.string "draft")⟩ := by
    simp [Variables.Holds, titled, Table.get?]
  refine ⟨_, .call (.write (.change unset (.call .rest (.call .rest .done))) .rest)
    (.call .rest .done), ?_, rfl⟩
  simp [Undisturbed]

theorem set_and_take_of_titled :
    (∃ bound after, titled.set bound "title" (.string "final") = some after ∧
      after.bindings = [("title", .string "final"), ("former", .string "draft")] ∧
      after.revision = 2) ∧
    ∃ bound after, titled.take bound "title" = some (some (.string "draft"), after) ∧
      after.bindings = [("former", .string "draft")] ∧ after.revision = 2 := by
  obtain ⟨sets, takes⟩ := set_and_take_of_undisturbed titled "title"
  constructor
  · obtain ⟨events, course, undisturbed, once⟩ := exists_course_titled (some (.string "final"))
    have fresh : ∀ current, titled.get? "title" = some current →
        Node.shallowEq current (.string "final") = false := by
      rintro current ⟨⟩
      rfl
    obtain ⟨after, made, ⟨bound, ends⟩, -⟩ := (sets _ fresh).2 events _ course undisturbed
    exact ⟨bound, after, ends, made.bindings, by rw [made.revision, once]; rfl⟩
  · obtain ⟨events, course, undisturbed, once⟩ := exists_course_titled none
    obtain ⟨after, made, ⟨bound, ends⟩, -⟩ := (takes _ rfl).2 events _ course undisturbed
    exact ⟨bound, after, ends, made.bindings, by rw [made.revision, once]; rfl⟩

end Context
end Storyboard
