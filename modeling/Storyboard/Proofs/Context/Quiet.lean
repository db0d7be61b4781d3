import Storyboard.Context

/-!
# Contexts whose observers only watch

Where no observer writes, an update has a closed form: it is idle and changes
nothing, or every observer is told of it once and it is made.  The bound on nested
reactions then has no say, and no update fails.
-/

namespace Storyboard

/-- An observer that never answers a change with a write. -/
def Observer.Passive (observer : Observer) : Prop :=
  ∀ change bindings, observer.react change bindings = .rest

theorem Observer.passive_watch (id : Nat) : Observer.Passive ⟨id, Observer.watch⟩ :=
  fun _ _ => rfl

namespace Context

/-- No observer of the context writes. -/
def Quiet (context : Context) : Prop :=
  ∀ observer ∈ context.observers, observer.Passive

/-- The change that is announced for an update. -/
def changeOf (context : Context) (update : Update) : Change :=
  ⟨update.name, context.get? update.name, update.value⟩

/-- Note that every observer was told of an update. -/
def record (context : Context) (update : Update) : Context :=
  { context with
    notices := context.notices ++ context.observers.map fun observer =>
      ⟨observer.id, context.changeOf update, context.get? update.name⟩ }

/-- What an update makes of a context whose observers only watch. -/
def revise (context : Context) (update : Update) : Context :=
  if context.idle update then context else (context.record update).commit update

@[simp] theorem notices_commit
    (context : Context)
    (update : Update) :
    (context.commit update).notices = context.notices := rfl

/-- A passive observer that is told of a change leaves nothing behind but a notice. -/
theorem tell_of_passive
    (write : Update → Context → Option Context)
    (change : Change)
    (context : Context)
    {observer : Observer}
    (passive : observer.Passive) :
    tell write change context observer =
      some { context with
        notices := context.notices ++ [⟨observer.id, change, context.get? change.name⟩] } := by
  simp only [tell, passive change context.bindings, follow]

/-- Passive observers that are told one after another leave a notice each. -/
theorem foldlM_tell_of_passive
    (write : Update → Context → Option Context)
    (change : Change)
    (observers : List Observer)
    (passive : ∀ observer ∈ observers, observer.Passive)
    (context : Context) :
    observers.foldlM (tell write change) context =
      some { context with
        notices := context.notices ++ observers.map fun observer =>
          ⟨observer.id, change, context.get? change.name⟩ } := by
  induction observers generalizing context with
  | nil => simp
  | cons observer rest inductionHypothesis =>
      have first := tell_of_passive write change context (passive observer List.mem_cons_self)
      have others := inductionHypothesis fun other member =>
        passive other (List.mem_cons_of_mem observer member)
      rw [List.foldlM_cons, first]
      simp only [Option.bind_eq_bind, Option.bind_some, others]
      simp [get?]

/-- Announcing an update to passive observers notes it. -/
theorem announce_of_quiet
    (write : Update → Context → Option Context)
    (update : Update)
    {context : Context}
    (quiet : context.Quiet) :
    context.announce write update = some (context.record update) :=
  foldlM_tell_of_passive write (context.changeOf update) context.observers quiet context

/-- An update of a quiet context has a closed form. -/
theorem updateBy_of_quiet
    (write : Update → Context → Option Context)
    (update : Update)
    {context : Context}
    (quiet : context.Quiet) :
    updateBy write update context = some (context.revise update) := by
  unfold updateBy revise
  rw [announce_of_quiet write update quiet]
  split <;> rfl

/-- An update of a quiet context has a closed form, whatever the bound. -/
theorem update_of_quiet
    (bound : Nat)
    (update : Update)
    {context : Context}
    (quiet : context.Quiet) :
    context.update bound update = some (context.revise update) := by
  rw [update_eq]
  exact updateBy_of_quiet (nested bound) update quiet

@[simp] theorem observers_revise
    (context : Context)
    (update : Update) :
    (context.revise update).observers = context.observers := by
  unfold revise
  split <;> rfl

@[simp] theorem nextObserver_revise
    (context : Context)
    (update : Update) :
    (context.revise update).nextObserver = context.nextObserver := by
  unfold revise
  split <;> rfl

/-- An update leaves a quiet context quiet. -/
theorem Quiet.revise
    {context : Context}
    (quiet : context.Quiet)
    (update : Update) :
    (context.revise update).Quiet := by
  unfold Quiet
  rw [observers_revise]
  exact quiet

theorem revise_of_idle
    {context : Context}
    {update : Update}
    (idle : context.idle update = true) :
    context.revise update = context := by
  rw [revise, if_pos idle]

theorem revise_of_not_idle
    {context : Context}
    {update : Update}
    (busy : context.idle update = false) :
    context.revise update = (context.record update).commit update := by
  rw [revise, busy]
  rfl

end Context
end Storyboard
