import Storyboard.Proofs.Expression.Meaning

/-!
# What was evaluated before

An evaluation returns the same through caches that agree on every path, and the cache that
it leaves agrees with the one it was given.  What was evaluated before has therefore no
say in what an evaluation returns.
-/

namespace Storyboard
namespace Evaluator

variable {scope : Scope} {cache first : Path.Cache}

theorem read_recall
    (evaluator : Evaluator)
    (path : String)
    (agrees : cache.Agrees first) :
    (evaluator.read scope path cache).1 = (evaluator.read scope path first).1 ∧
      (evaluator.read scope path cache).2.Agrees first := by
  have same := agrees (evaluator.substitute scope.index path)
  have kept := agrees.snd_parse (evaluator.substitute scope.index path)
  unfold read
  revert same kept
  cases cache.parse (evaluator.substitute scope.index path) with
  | mk result remembered =>
      cases first.parse (evaluator.substitute scope.index path) with
      | mk other _ =>
          rintro rfl kept
          cases result <;> exact ⟨rfl, kept⟩

/-- An evaluation returns the same through caches that agree, by induction on the levels. -/
theorem evaluateTo_recall
    (evaluator : Evaluator)
    (levels : Nat)
    (node : Node)
    (agrees : cache.Agrees first) :
    (evaluator.evaluateTo scope levels node cache).1 =
        (evaluator.evaluateTo scope levels node first).1 ∧
      (evaluator.evaluateTo scope levels node cache).2.Agrees first := by
  induction levels generalizing node cache with
  | zero => exact ⟨rfl, agrees⟩
  | succ levels inductionHypothesis =>
      have each : ∀ node {cache : Path.Cache}, cache.Agrees first →
          (evaluator.evaluateTo scope levels node cache).1 =
              (evaluator.evaluateTo scope levels node first).1 ∧
            (evaluator.evaluateTo scope levels node cache).2.Agrees first :=
        fun node _ agrees => inductionHypothesis node agrees
      rw [evaluateTo, evaluateTo]
      cases evaluator.classify node with
      | null => exact ⟨rfl, agrees⟩
      | literal node => exact ⟨rfl, agrees⟩
      | «variable» path => exact read_recall evaluator path agrees
      | operator name input =>
          obtain ⟨same, kept⟩ := inductionHypothesis input agrees
          dsimp only
          rw [same]
          cases Table.get? evaluator.operators name <;> exact ⟨rfl, kept⟩
      | array items =>
          obtain ⟨values, kept⟩ := eachItem_spec each items agrees
          obtain ⟨valuesFirst, -⟩ := eachItem_spec each items (Path.Cache.Agrees.refl first)
          exact ⟨congrArg Node.sequence (values.trans valuesFirst.symm), kept⟩
      | object entries =>
          obtain ⟨values, kept⟩ := eachEntry_spec each entries agrees
          obtain ⟨valuesFirst, -⟩ := eachEntry_spec each entries (Path.Cache.Agrees.refl first)
          exact ⟨congrArg Node.mapping (values.trans valuesFirst.symm), kept⟩

/-- An evaluation returns the same through caches that agree. -/
theorem evaluate_recall
    (evaluator : Evaluator)
    (scope : Scope)
    (node : Node)
    (agrees : cache.Agrees first) :
    (evaluator.evaluate scope node cache).1 = (evaluator.evaluate scope node first).1 ∧
      (evaluator.evaluate scope node cache).2.Agrees first :=
  evaluator.evaluateTo_recall levelLimit node agrees

end Evaluator
end Storyboard
