import Storyboard.Node

/-!
# Variables and their observers

A context holds the variables of a running session.  Every change that counts is
announced to the observers before it is made, and an observer may answer with
changes of its own, which are announced in turn.  Such answers may go on without
end, so the operations take a bound on how deep they may nest; without an answer
the bound does not matter.
-/

namespace Storyboard

/-- The variables in the order in which they were first set. -/
abbrev Variables := List (String × Node)

/-- A write to one variable: a new value, or nothing to remove it. -/
structure Update where
  /-- The variable. -/
  name : String
  /-- Its value afterwards. -/
  value : Option Node
  deriving Inhabited

/-- A change as it is announced. -/
structure Change where
  /-- The variable. -/
  name : String
  /-- Its value when the announcement began. -/
  old : Option Node
  /-- Its value afterwards. -/
  new : Option Node
  deriving Inhabited

/-- What an observer does: writes one after another, each chosen on sight of the variables. -/
inductive Reaction where
  /-- Nothing more. -/
  | rest
  /-- A write, and what follows it. -/
  | write (update : Update) (next : Variables → Reaction)

/-- Somebody who is told of every change. -/
structure Observer where
  /-- The number under which it was registered. -/
  id : Nat
  /-- What it does about a change, on sight of the variables. -/
  react : Change → Variables → Reaction

/-- The reaction of an observer that only watches. -/
def Observer.watch : Change → Variables → Reaction := fun _ _ => .rest

/-- One call of one observer. -/
structure Notice where
  /-- The observer. -/
  observer : Nat
  /-- The announced change. -/
  change : Change
  /-- The value that the variable had at the time of the call. -/
  stored : Option Node

/-- The variables of a session and all that is known about their changes. -/
structure Context where
  /-- The variables. -/
  bindings : Variables := []
  /-- The observers in the order of registration. -/
  observers : List Observer := []
  /-- The number of the next observer. -/
  nextObserver : Nat := 0
  /-- How many changes were made. -/
  revision : Nat := 0
  /-- Every call of an observer, in order. -/
  notices : List Notice := []

namespace Context

/-- The value of a variable. -/
def get? (context : Context) (name : String) : Option Node :=
  Table.get? context.bindings name

/-- Whether a variable is set, to `null` or to any other value. -/
def contains (context : Context) (name : String) : Bool :=
  Table.contains context.bindings name

/-- The names of the variables in order. -/
def names (context : Context) : List String :=
  Table.keys context.bindings

/-- Register an observer and return its number. -/
def observe (context : Context) (react : Change → Variables → Reaction) : Nat × Context :=
  (context.nextObserver,
    { context with
      observers := context.observers ++ [⟨context.nextObserver, react⟩]
      nextObserver := context.nextObserver + 1 })

/-- Register no longer an observer. -/
def unobserve (context : Context) (id : Nat) : Context :=
  { context with observers := context.observers.filter fun observer => observer.id != id }

/-- Whether a write changes nothing: a value shallowly equal to the present one, or the removal of
a variable that is not set. -/
def idle (context : Context) (update : Update) : Bool :=
  match update.value, context.get? update.name with
  | some value, some current => Node.shallowEq current value
  | none, none => true
  | _, _ => false

/-- Make a change, without an announcement. -/
def commit (context : Context) (update : Update) : Context :=
  { context with
    bindings :=
      match update.value with
      | some value => Table.insert context.bindings update.name value
      | none => Table.erase context.bindings update.name
    revision := context.revision + 1 }

/-- Carry out a reaction by means of a way to write. -/
def follow (write : Update → Context → Option Context) :
    Reaction → Context → Option Context
  | .rest, context => some context
  | .write update next, context => do
      let context ← write update context
      follow write (next context.bindings) context

/-- Tell one observer of a change. -/
def tell (write : Update → Context → Option Context) (change : Change)
    (context : Context) (observer : Observer) : Option Context :=
  let notice : Notice := ⟨observer.id, change, context.get? change.name⟩
  follow write (observer.react change context.bindings)
    { context with notices := context.notices ++ [notice] }

/-- Tell the observers, as they stand, of a change that is about to be made. -/
def announce (write : Update → Context → Option Context) (update : Update)
    (context : Context) : Option Context :=
  context.observers.foldlM (tell write ⟨update.name, context.get? update.name, update.value⟩)
    context

/-- Announce a change and make it, unless it changes nothing. -/
def updateBy (write : Update → Context → Option Context) (update : Update)
    (context : Context) : Option Context :=
  if context.idle update then some context
  else (context.announce write update).map fun told => told.commit update

/-- Write a variable; the reactions of observers nest no deeper than a bound. -/
def update : Nat → Update → Context → Option Context
  | 0 => updateBy fun _ _ => none
  | bound + 1 => updateBy (update bound)

/-- How the observers of a context write. -/
def nested : Nat → Update → Context → Option Context
  | 0 => fun _ _ => none
  | bound + 1 => update bound

theorem update_eq (bound : Nat) : update bound = updateBy (nested bound) := by
  cases bound <;> rfl

/-- Set a variable. -/
def set (bound : Nat) (name : String) (value : Node) (context : Context) : Option Context :=
  update bound ⟨name, some value⟩ context

/-- Remove a variable. -/
def remove (bound : Nat) (name : String) (context : Context) : Option Context :=
  update bound ⟨name, none⟩ context

/-- Remove a variable and return the value that was removed.  Observers may have removed it first. -/
def take (bound : Nat) (name : String) (context : Context) : Option (Option Node × Context) :=
  if context.idle ⟨name, none⟩ then some (none, context)
  else
    (context.announce (nested bound) ⟨name, none⟩).map fun told =>
      (told.get? name, told.commit ⟨name, none⟩)

/-- Taking a variable out removes it. -/
theorem map_take (bound : Nat) (name : String) (context : Context) :
    (context.take bound name).map Prod.snd = context.remove bound name := by
  unfold take remove
  rw [update_eq]
  unfold updateBy
  by_cases idle : context.idle ⟨name, none⟩ <;> simp [idle, Option.map_map, Function.comp_def]

/-- After a change the variable has its new value, and no other variable changes. -/
theorem get?_commit_some (context : Context) (name : String) (value : Node) (other : String) :
    (context.commit ⟨name, some value⟩).get? other =
      if name = other then some value else context.get? other :=
  Table.get?_insert context.bindings name value other

/-- The removal of a variable leaves every other one. -/
theorem get?_commit_none (context : Context) {name other : String} (apart : name ≠ other) :
    (context.commit ⟨name, none⟩).get? other = context.get? other :=
  Table.get?_erase_of_ne context.bindings apart

/-- Every change counts once. -/
@[simp] theorem revision_commit (context : Context) (update : Update) :
    (context.commit update).revision = context.revision + 1 := rfl

/-- A write that changes nothing is not announced. -/
theorem updateBy_of_idle (write : Update → Context → Option Context) {update : Update}
    {context : Context} (idle : context.idle update = true) :
    updateBy write update context = some context := by
  simp [updateBy, idle]

end Context
end Storyboard
