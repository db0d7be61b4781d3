import Storyboard.Expression

/-!
# Resolving variables

Variables whose values are expressions are replaced by what these evaluate to,
pass after pass, until a pass changes nothing or the allowed number is reached.
-/

namespace Storyboard

/-- How a resolution ended. -/
structure Report where
  /-- The number of passes. -/
  passes : Nat
  /-- Whether the last pass changed nothing. -/
  converged : Bool
  deriving DecidableEq

namespace Evaluator

/-- A context, the cache of paths, and whether a variable was written. -/
structure Progress where
  /-- The context. -/
  context : Context
  /-- The cache of paths. -/
  cache : Path.Cache
  /-- Whether a variable was written. -/
  changed : Bool

/-- Replace one variable by what it evaluates to, if it holds an expression of another value. -/
def resolveVariable (evaluator : Evaluator) (bound : Nat) (index : Option Nat)
    (stored : List (String × Node)) (progress : Progress) (name : String) : Option Progress :=
  match progress.context.get? name with
  | none => some progress
  | some value =>
      if evaluator.isExpression value then
        let (resolved, cache) :=
          evaluator.evaluate ⟨progress.context.bindings, index, stored⟩ value progress.cache
        if Node.same resolved value then some { progress with cache := cache }
        else
          (progress.context.set bound name resolved).map fun context => ⟨context, cache, true⟩
      else some progress

/-- One pass over the variables that are set when it begins. -/
def resolvePass (evaluator : Evaluator) (bound : Nat) (index : Option Nat)
    (stored : List (String × Node)) (context : Context) (cache : Path.Cache) : Option Progress :=
  context.names.foldlM (evaluator.resolveVariable bound index stored) ⟨context, cache, false⟩

/-- Passes until one changes nothing; some were made before, and some more are allowed. -/
def resolveAfter (evaluator : Evaluator) (bound : Nat) (index : Option Nat)
    (stored : List (String × Node)) (made : Nat) :
    Nat → Context → Path.Cache → Option (Report × Context × Path.Cache)
  | 0, context, cache => some (⟨made, false⟩, context, cache)
  | allowed + 1, context, cache => do
      let progress ← evaluator.resolvePass bound index stored context cache
      if progress.changed then
        resolveAfter evaluator bound index stored (made + 1) allowed progress.context
          progress.cache
      else
        return (⟨made + 1, true⟩, progress.context, progress.cache)

/-- Resolve the variables in at most a number of passes. -/
def resolve (evaluator : Evaluator) (bound : Nat) (index : Option Nat)
    (stored : List (String × Node)) (cap : Nat) (context : Context) (cache : Path.Cache) :
    Option (Report × Context × Path.Cache) :=
  evaluator.resolveAfter bound index stored 0 cap context cache

end Evaluator
end Storyboard
