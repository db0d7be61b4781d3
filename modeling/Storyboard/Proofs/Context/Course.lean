import Storyboard.Proofs.Context.Drift

/-!
# The course of an announcement

While a change is announced, every observer is called and may answer with writes, and each write
that counts is announced in turn before it is made.  A course tells all that happens until the
observers are done: which observers are called and which variables are changed, in order, and the
changes of which variables are announced at that moment.
-/

namespace Storyboard

/-- The variables are as an update would make them: they have a shallowly equal value, or none that
could be removed. -/
def Variables.Holds (bindings : Variables) (update : Update) : Prop :=
  match update.value with
  | some value => ∃ current, Table.get? bindings update.name = some current ∧
      Node.shallowEq current value = true
  | none => Table.get? bindings update.name = none

namespace Announcing

/-- Something that happens while changes are announced. -/
inductive Event where
  /-- An observer is called. -/
  | call (notice : Notice)
  /-- A variable is changed while changes of the announced variables are on the way. -/
  | change (announced : List String) (update : Update)

/-- The call in an event. -/
def Event.call? : Event → Option Notice
  | .call notice => some notice
  | .change _ _ => none

/-- The change in an event. -/
def Event.change? : Event → Option Update
  | .call _ => none
  | .change _ update => some update

/-- The variable that an event is about. -/
def Event.name : Event → String
  | .call notice => notice.change.name
  | .change _ update => update.name

/-- The calls among events. -/
def calls (events : List Event) : List Notice :=
  events.filterMap Event.call?

/-- The changes among events. -/
def changes (events : List Event) : List Update :=
  events.filterMap Event.change?

/-- No variable is changed while a change of it is announced. -/
def Undisturbed (events : List Event) : Prop :=
  ∀ announced update, Event.change announced update ∈ events → update.name ∉ announced

mutual

/-- The course of an update: nothing, or its announcement and then the change. -/
inductive Updates (observers : List Observer) :
    List String → Update → Variables → List Event → Variables → Prop where
  /-- An update that changes nothing is not announced. -/
  | idle {announced : List String} {update : Update} {bindings : Variables} :
      bindings.Holds update → Updates observers announced update bindings [] bindings
  /-- All observers are called, and then the change is made. -/
  | change {announced : List String} {update : Update} {bindings left : Variables}
      {events : List Event} :
      ¬ bindings.Holds update →
      Tells observers (update.name :: announced)
        ⟨update.name, Table.get? bindings update.name, update.value⟩ observers bindings events
        left →
      Updates observers announced update bindings (events ++ [.change announced update])
        (left.put update)

/-- The course of calling observers one after another. -/
inductive Tells (observers : List Observer) :
    List String → Change → List Observer → Variables → List Event → Variables → Prop where
  /-- No observer is left. -/
  | done {announced : List String} {change : Change} {bindings : Variables} :
      Tells observers announced change [] bindings [] bindings
  /-- An observer is called, reacts, and then the others are called. -/
  | call {announced : List String} {change : Change} {observer : Observer}
      {rest : List Observer} {bindings middle left : Variables} {events later : List Event} :
      Reacts observers announced (observer.react change bindings) bindings events middle →
      Tells observers announced change rest middle later left →
      Tells observers announced change (observer :: rest) bindings
        (.call ⟨observer.id, change, Table.get? bindings change.name⟩ :: (events ++ later)) left

/-- The course of the writes of a reaction. -/
inductive Reacts (observers : List Observer) :
    List String → Reaction → Variables → List Event → Variables → Prop where
  /-- Nothing more is written. -/
  | rest {announced : List String} {bindings : Variables} :
      Reacts observers announced .rest bindings [] bindings
  /-- A write, and then the others. -/
  | write {announced : List String} {update : Update} {next : Variables → Reaction}
      {bindings middle left : Variables} {events later : List Event} :
      Updates observers announced update bindings events middle →
      Reacts observers announced (next middle) middle later left →
      Reacts observers announced (.write update next) bindings (events ++ later) left

end

/-! ## Calls and changes -/

section Events

variable (notice : Notice) (announced : List String) (update : Update) (events later : List Event)

@[simp] theorem calls_nil : calls [] = [] := rfl

@[simp] theorem calls_call : calls (.call notice :: events) = notice :: calls events := rfl

@[simp] theorem calls_change : calls (.change announced update :: events) = calls events := rfl

@[simp] theorem calls_append : calls (events ++ later) = calls events ++ calls later :=
  List.filterMap_append

@[simp] theorem changes_nil : changes [] = [] := rfl

@[simp] theorem changes_call : changes (.call notice :: events) = changes events := rfl

@[simp] theorem changes_change :
    changes (.change announced update :: events) = update :: changes events := rfl

@[simp] theorem changes_append : changes (events ++ later) = changes events ++ changes later :=
  List.filterMap_append

end Events

variable {observers : List Observer}

mutual

/-- The variables that an update leaves come from the changes in its course, by induction on the
course. -/
theorem Updates.left_eq
    {announced : List String}
    {update : Update}
    {bindings left : Variables}
    {events : List Event} :
    Updates observers announced update bindings events left →
      left = (changes events).foldl Variables.put bindings
  | .idle _ => rfl
  | .change _ tells => by
      have told := tells.left_eq
      rw [changes_append, List.foldl_append, ← told]
      rfl

theorem Tells.left_eq
    {announced : List String}
    {change : Change}
    {asked : List Observer}
    {bindings left : Variables}
    {events : List Event} :
    Tells observers announced change asked bindings events left →
      left = (changes events).foldl Variables.put bindings
  | .done => rfl
  | .call first others => by
      rw [changes_call, changes_append, List.foldl_append, ← first.left_eq]
      exact others.left_eq

theorem Reacts.left_eq
    {announced : List String}
    {reaction : Reaction}
    {bindings left : Variables}
    {events : List Event} :
    Reacts observers announced reaction bindings events left →
      left = (changes events).foldl Variables.put bindings
  | .rest => rfl
  | .write first others => by
      rw [changes_append, List.foldl_append, ← first.left_eq]
      exact others.left_eq

end

theorem Undisturbed.of_append
    {events later : List Event}
    (undisturbed : Undisturbed (events ++ later)) :
    Undisturbed events ∧ Undisturbed later :=
  ⟨fun announced update member => undisturbed announced update (List.mem_append_left _ member),
    fun announced update member => undisturbed announced update (List.mem_append_right _ member)⟩

theorem Undisturbed.of_call
    {notice : Notice}
    {events later : List Event}
    (undisturbed : Undisturbed (.call notice :: (events ++ later))) :
    Undisturbed events ∧ Undisturbed later :=
  Undisturbed.of_append fun announced update member =>
    undisturbed announced update (List.mem_cons_of_mem _ member)

mutual

/-- Where no variable is changed while a change of it is announced, the course of an update is not
about the variables whose changes are announced around it. -/
theorem Updates.apart
    {announced : List String}
    {update : Update}
    {bindings left : Variables}
    {events : List Event}
    (undisturbed : Undisturbed events)
    (updates : Updates observers announced update bindings events left) :
    ∀ event ∈ events, event.name ∉ announced :=
  match updates with
  | .idle _ => nofun
  | .change _ tells => by
      obtain ⟨earlier, last⟩ := undisturbed.of_append
      have itself : update.name ∉ announced := last announced update List.mem_cons_self
      intro event member
      rcases List.mem_append.mp member with inCourse | atEnd
      · rcases tells.apart earlier event inCourse with ⟨notice, rfl, same⟩ | apart
        · have about : notice.change.name = update.name := congrArg Change.name same
          rwa [Event.name, about]
        · exact fun inside => apart (List.mem_cons_of_mem _ inside)
      · -- The last event is the change itself, and it is not announced around it.
        obtain rfl := List.mem_singleton.mp atEnd
        exact itself

/-- Apart from the calls for the change itself, the course of an announcement is not about the
variables whose changes are announced. -/
theorem Tells.apart
    {announced : List String}
    {change : Change}
    {asked : List Observer}
    {bindings left : Variables}
    {events : List Event}
    (undisturbed : Undisturbed events)
    (tells : Tells observers announced change asked bindings events left) :
    ∀ event ∈ events, (∃ notice, event = .call notice ∧ notice.change = change) ∨
      event.name ∉ announced :=
  match tells with
  | .done => nofun
  | .call first others => by
      obtain ⟨earlier, later⟩ := undisturbed.of_call
      intro event member
      rcases List.mem_cons.mp member with rfl | member
      · exact Or.inl ⟨_, rfl, rfl⟩
      rcases List.mem_append.mp member with inFirst | inOthers
      · exact Or.inr (first.apart earlier event inFirst)
      · exact others.apart later event inOthers

theorem Reacts.apart
    {announced : List String}
    {reaction : Reaction}
    {bindings left : Variables}
    {events : List Event}
    (undisturbed : Undisturbed events)
    (reacts : Reacts observers announced reaction bindings events left) :
    ∀ event ∈ events, event.name ∉ announced :=
  match reacts with
  | .rest => nofun
  | .write first others => by
      obtain ⟨earlier, later⟩ := undisturbed.of_append
      intro event member
      rcases List.mem_append.mp member with inFirst | inOthers
      · exact first.apart earlier event inFirst
      · exact others.apart later event inOthers

end

/-! ## What an announced variable holds -/

theorem exists_of_mem_changes
    {update : Update}
    {events : List Event}
    (member : update ∈ changes events) :
    ∃ announced, Event.change announced update ∈ events := by
  obtain ⟨event, isEvent, isChange⟩ := List.mem_filterMap.mp member
  cases event with
  | call notice => cases isChange
  | change announced other =>
      cases isChange
      exact ⟨announced, isEvent⟩

/-- Changes of other variables leave a variable as it is. -/
theorem get?_foldl_changes
    {events : List Event}
    {name : String}
    (apart : ∀ announced update, Event.change announced update ∈ events → update.name ≠ name)
    (bindings : Variables) :
    Table.get? ((changes events).foldl Variables.put bindings) name =
      Table.get? bindings name := by
  have others : ∀ update ∈ changes events, update.name ≠ name := by
    intro update member
    obtain ⟨announced, isEvent⟩ := exists_of_mem_changes member
    exact apart announced update isEvent
  generalize changes events = updates at others
  induction updates generalizing bindings with
  | nil => rfl
  | cons update rest inductionHypothesis =>
      rw [List.foldl_cons, inductionHypothesis _ fun other member =>
        others other (List.mem_cons_of_mem update member)]
      exact bindings.get?_put (others update List.mem_cons_self)

section Announced

variable {announced : List String} {bindings left : Variables} {events : List Event}
  (undisturbed : Undisturbed events)

include undisturbed

/-- An announced variable holds what it held until all reactions are over. -/
theorem Reacts.get?_left
    {reaction : Reaction}
    (reacts : Reacts observers announced reaction bindings events left)
    {name : String}
    (announces : name ∈ announced) :
    Table.get? left name = Table.get? bindings name := by
  rw [reacts.left_eq]
  refine get?_foldl_changes (fun around update member same => ?_) bindings
  have apart : update.name ∉ announced := reacts.apart undisturbed _ member
  exact apart (same ▸ announces)

/-- An announced variable holds what it held until all observers are done. -/
theorem Tells.get?_left
    {change : Change}
    {asked : List Observer}
    (tells : Tells observers announced change asked bindings events left)
    {name : String}
    (announces : name ∈ announced) :
    Table.get? left name = Table.get? bindings name := by
  rw [tells.left_eq]
  refine get?_foldl_changes (fun around update member same => ?_) bindings
  rcases tells.apart undisturbed _ member with ⟨notice, impossible, -⟩ | apart
  · cases impossible
  · have apart : update.name ∉ announced := apart
    exact apart (same ▸ announces)

/-- No reaction has the observers called for a variable whose change is announced. -/
theorem Reacts.filter_calls
    {reaction : Reaction}
    (reacts : Reacts observers announced reaction bindings events left)
    {name : String}
    (announces : name ∈ announced) :
    ((calls events).filter fun notice => notice.change.name == name) = [] := by
  rw [List.filter_eq_nil_iff]
  intro notice member
  obtain ⟨event, isEvent, isCall⟩ := List.mem_filterMap.mp member
  cases event with
  | change around update => cases isCall
  | call other =>
      cases isCall
      have apart : notice.change.name ∉ announced := reacts.apart undisturbed _ isEvent
      have differs : notice.change.name ≠ name := fun same => apart (same ▸ announces)
      simpa using differs

/-- Of a change that is announced every observer is told once, in order, while the variable holds
what it held. -/
theorem Tells.filter_calls
    {change : Change}
    {asked : List Observer}
    (tells : Tells observers announced change asked bindings events left)
    (announces : change.name ∈ announced) :
    ((calls events).filter fun notice => notice.change.name == change.name) =
      asked.map fun observer => ⟨observer.id, change, Table.get? bindings change.name⟩ := by
  induction asked generalizing bindings events with
  | nil =>
      cases tells
      rfl
  | cons observer rest inductionHypothesis =>
      cases tells with
      | @call _ _ _ _ _ middle _ events later first others =>
          obtain ⟨earlier, undisturbedLater⟩ := undisturbed.of_call
          -- The reaction of the first observer has nobody told of this change, and the next
          -- observer finds the variable as the first did.
          have nested := first.filter_calls earlier announces
          have told := inductionHypothesis undisturbedLater others
          rw [first.get?_left earlier announces] at told
          simp [nested, told]

end Announced

end Announcing

end Storyboard
