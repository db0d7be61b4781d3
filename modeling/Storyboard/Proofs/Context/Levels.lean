import Storyboard.Context

/-!
# How deep observers may react

The bound on the levels of reactions only decides whether an update comes to an end.  An
update that does comes to the same wherever more levels are allowed.
-/

namespace Storyboard
namespace Context

/-- A way to write that comes to the same wherever another does. -/
def Extends (more fewer : Update → Context → Option Context) : Prop :=
  ∀ update context result, fewer update context = some result → more update context = some result

section Extends

variable {more fewer : Update → Context → Option Context} (extension : Extends more fewer)

include extension

/-- A reaction that ends comes to the same, by induction on its writes. -/
theorem follow_of_extends
    {reaction : Reaction}
    {context result : Context}
    (followed : follow fewer reaction context = some result) :
    follow more reaction context = some result := by
  induction reaction generalizing context with
  | rest => exact followed
  | write update next inductionHypothesis =>
      obtain ⟨middle, written, later⟩ := Option.bind_eq_some_iff.mp followed
      exact Option.bind_eq_some_iff.mpr
        ⟨middle, extension update context middle written, inductionHypothesis _ later⟩

theorem foldlM_tell_of_extends
    (change : Change)
    {observers : List Observer}
    {context result : Context}
    (told : observers.foldlM (tell fewer change) context = some result) :
    observers.foldlM (tell more change) context = some result := by
  induction observers generalizing context with
  | nil => exact told
  | cons observer rest inductionHypothesis =>
      rw [List.foldlM_cons] at told ⊢
      obtain ⟨middle, first, later⟩ := Option.bind_eq_some_iff.mp told
      exact Option.bind_eq_some_iff.mpr
        ⟨middle, follow_of_extends extension first, inductionHypothesis later⟩

theorem updateBy_of_extends : Extends (updateBy more) (updateBy fewer) := by
  intro update context result updated
  unfold updateBy at updated ⊢
  split at updated
  · next idle => rw [if_pos idle, updated]
  · next busy =>
      obtain ⟨told, announced, rfl⟩ := Option.map_eq_some_iff.mp updated
      rw [if_neg busy]
      exact Option.map_eq_some_iff.mpr
        ⟨told, foldlM_tell_of_extends extension _ announced, rfl⟩

end Extends

/-- Observers that may react on more levels write the same, by induction on the fewer levels. -/
theorem nested_of_le
    {bound more : Nat}
    (atMost : bound ≤ more) :
    Extends (nested more) (nested bound) := by
  induction bound generalizing more with
  | zero => exact fun _ _ _ impossible => by cases impossible
  | succ bound inductionHypothesis =>
      obtain ⟨more, rfl⟩ := Nat.exists_eq_add_of_le' atMost
      have fewer : bound ≤ more + bound := Nat.le_add_left bound more
      have extension := updateBy_of_extends (inductionHypothesis fewer)
      rw [← update_eq, ← update_eq] at extension
      exact extension

/-- An update that ends comes to the same on more levels. -/
theorem update_of_le
    {bound more : Nat}
    (atMost : bound ≤ more)
    {update : Update}
    {context result : Context}
    (updated : Context.update bound update context = some result) :
    Context.update more update context = some result := by
  rw [update_eq] at updated ⊢
  exact updateBy_of_extends (nested_of_le atMost) update context result updated

end Context
end Storyboard
