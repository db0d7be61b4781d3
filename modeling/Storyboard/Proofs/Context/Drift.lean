import Storyboard.Context

/-!
# What observers may do to a context

Observers answer the announcement of a change with writes, and these are announced in
turn.  Where every write of every observer is of a certain kind, all that an update
does is a number of such writes, and then the update itself.
-/

namespace Storyboard

/-- Every write of a reaction is allowed. -/
def Reaction.Within (allowed : Update → Prop) : Reaction → Prop
  | .rest => True
  | .write update next => allowed update ∧ ∀ bindings, (next bindings).Within allowed

/-- The variables after a write. -/
def Variables.put (bindings : Variables) (update : Update) : Variables :=
  match update.value with
  | some value => Table.insert bindings update.name value
  | none => Table.erase bindings update.name

/-- A write changes no other variable. -/
theorem Variables.get?_put
    (bindings : Variables)
    {update : Update}
    {name : String}
    (apart : update.name ≠ name) :
    Table.get? (bindings.put update) name = Table.get? bindings name := by
  obtain ⟨other, value⟩ := update
  cases value with
  | none => exact Table.get?_erase_of_ne bindings apart
  | some value => exact (Table.get?_insert bindings other value name).trans (if_neg apart)

namespace Context

variable {allowed : Update → Prop}

/-- Every write of every observer is allowed. -/
def Within (allowed : Update → Prop) (context : Context) : Prop :=
  ∀ observer ∈ context.observers, ∀ change bindings,
    (observer.react change bindings).Within allowed

/-- A context becomes another by allowed writes, while the observers stay. -/
structure Drifts (allowed : Update → Prop) (context after : Context) : Prop where
  /-- No observer comes or goes. -/
  observers : after.observers = context.observers
  /-- The variables come from writes that are allowed. -/
  writes : ∃ updates : List Update, (∀ update ∈ updates, allowed update) ∧
    after.bindings = updates.foldl Variables.put context.bindings

namespace Drifts

theorem refl (context : Context) : Drifts allowed context context :=
  ⟨rfl, [], fun _ member => absurd member List.not_mem_nil, rfl⟩

theorem trans
    {first second third : Context}
    (earlier : Drifts allowed first second)
    (later : Drifts allowed second third) :
    Drifts allowed first third := by
  obtain ⟨sameObservers, updates, allowedUpdates, bindings⟩ := earlier
  obtain ⟨sameObserversLater, others, allowedOthers, bindingsLater⟩ := later
  refine ⟨sameObserversLater.trans sameObservers, updates ++ others, ?_, ?_⟩
  · intro update member
    rcases List.mem_append.mp member with first | second
    · exact allowedUpdates update first
    · exact allowedOthers update second
  · rw [bindingsLater, bindings, List.foldl_append]

/-- A notice changes no variable. -/
theorem notice
    (allowed : Update → Prop)
    (context : Context)
    (notices : List Notice) :
    Drifts allowed context { context with notices := notices } :=
  ⟨rfl, [], fun _ member => absurd member List.not_mem_nil, rfl⟩

theorem commit
    (context : Context)
    {update : Update}
    (isAllowed : allowed update) :
    Drifts allowed context (context.commit update) := by
  refine ⟨rfl, [update], ?_, rfl⟩
  intro other member
  exact List.mem_singleton.mp member ▸ isAllowed

/-- Observers that stay go on to write what is allowed. -/
theorem within
    {context after : Context}
    (drifts : Drifts allowed context after)
    (within : context.Within allowed) :
    after.Within allowed := by
  unfold Within
  rw [drifts.observers]
  exact within

/-- What an allowed write keeps is kept. -/
theorem keeps
    {context after : Context}
    (drifts : Drifts allowed context after)
    (kept : Variables → Prop)
    (step : ∀ bindings update, allowed update → kept bindings → kept (bindings.put update))
    (start : kept context.bindings) :
    kept after.bindings := by
  obtain ⟨_, updates, allowedUpdates, same⟩ := drifts
  rw [same]
  clear same
  generalize context.bindings = bindings at start
  induction updates generalizing bindings with
  | nil => exact start
  | cons update rest inductionHypothesis =>
      exact inductionHypothesis (fun other member =>
        allowedUpdates other (List.mem_cons_of_mem update member)) (bindings.put update)
        (step bindings update (allowedUpdates update List.mem_cons_self) start)

end Drifts

/-- A way to write that comes to allowed writes where it starts with one. -/
def Confined (allowed : Update → Prop) (write : Update → Context → Option Context) : Prop :=
  ∀ update context after, allowed update → context.Within allowed →
    write update context = some after → Drifts allowed context after

section Announcing

variable {write : Update → Context → Option Context}

theorem drifts_follow
    (confined : Confined allowed write)
    {reaction : Reaction}
    (within : reaction.Within allowed)
    {context after : Context}
    (contextWithin : context.Within allowed)
    (followed : follow write reaction context = some after) :
    Drifts allowed context after := by
  induction reaction generalizing context with
  | rest =>
      obtain rfl := Option.some.inj followed
      exact .refl context
  | write update next inductionHypothesis =>
      obtain ⟨middle, written, followed⟩ := Option.bind_eq_some_iff.mp followed
      have first := confined update context middle within.1 contextWithin written
      exact first.trans (inductionHypothesis middle.bindings (within.2 middle.bindings)
        (first.within contextWithin) followed)

theorem drifts_tell
    (confined : Confined allowed write)
    {context after : Context}
    (within : context.Within allowed)
    {observer : Observer}
    (observes : ∀ change bindings, (observer.react change bindings).Within allowed)
    {change : Change}
    (told : tell write change context observer = some after) :
    Drifts allowed context after := by
  have noted := Drifts.notice allowed context
    (context.notices ++ [⟨observer.id, change, context.get? change.name⟩])
  exact noted.trans (drifts_follow confined (observes change context.bindings)
    (noted.within within) told)

theorem drifts_foldlM_tell
    (confined : Confined allowed write)
    (change : Change)
    (observers : List Observer)
    (observe : ∀ observer ∈ observers, ∀ change bindings,
      (observer.react change bindings).Within allowed)
    {context after : Context}
    (within : context.Within allowed)
    (told : observers.foldlM (tell write change) context = some after) :
    Drifts allowed context after := by
  induction observers generalizing context with
  | nil =>
      obtain rfl := Option.some.inj told
      exact .refl context
  | cons observer rest inductionHypothesis =>
      rw [List.foldlM_cons] at told
      obtain ⟨middle, first, told⟩ := Option.bind_eq_some_iff.mp told
      have drifts := drifts_tell confined within (observe observer List.mem_cons_self) first
      exact drifts.trans (inductionHypothesis
        (fun other member => observe other (List.mem_cons_of_mem observer member))
        (drifts.within within) told)

/-- To announce a change comes to allowed writes, whatever the change. -/
theorem drifts_announce
    (confined : Confined allowed write)
    {update : Update}
    {context told : Context}
    (within : context.Within allowed)
    (announced : context.announce write update = some told) :
    Drifts allowed context told :=
  drifts_foldlM_tell confined _ context.observers within within announced

theorem Confined.updateBy
    (confined : Confined allowed write) :
    Confined allowed (updateBy write) := by
  intro update context after isAllowed within updated
  unfold Context.updateBy at updated
  split at updated
  · obtain rfl := Option.some.inj updated
    exact .refl context
  · obtain ⟨told, announced, rfl⟩ := Option.map_eq_some_iff.mp updated
    exact (drifts_announce confined within announced).trans (.commit told isAllowed)

end Announcing

/-- However deep observers nest, they keep to what is allowed, by induction on the depth. -/
theorem confined_nested (bound : Nat) : Confined allowed (nested bound) := by
  induction bound with
  | zero => exact fun _ _ _ _ _ impossible => by cases impossible
  | succ bound inductionHypothesis =>
      have deeper : nested (bound + 1) = Context.updateBy (nested bound) := update_eq bound
      rw [deeper]
      exact inductionHypothesis.updateBy

/-- All that an update does: nothing, or what observers are allowed to and then the update. -/
theorem update_cases
    {bound : Nat}
    {update : Update}
    {context after : Context}
    (within : context.Within allowed)
    (updated : context.update bound update = some after) :
    (context.idle update = true ∧ after = context) ∨
      ∃ told, Drifts allowed context told ∧ after = told.commit update := by
  rw [update_eq, updateBy] at updated
  split at updated
  · next idle => exact Or.inl ⟨idle, (Option.some.inj updated).symm⟩
  · obtain ⟨told, announced, rfl⟩ := Option.map_eq_some_iff.mp updated
    exact Or.inr ⟨told, drifts_announce (confined_nested bound) within announced, rfl⟩

end Context
end Storyboard
