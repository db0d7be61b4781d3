import Storyboard.Expression

/-!
# Writing through written paths

A path given as text is parsed through the cache, with the loop position in the
place of the placeholder, and a value is written there.
-/

namespace Storyboard
namespace Evaluator

/-- Write a value at a path given as text. -/
def assign (evaluator : Evaluator) (bound : Nat) (index : Option Nat) (path : String)
    (value : Node) (context : Context) (cache : Path.Cache) :
    Option (Except PathError Unit × Context × Path.Cache) :=
  match cache.parse (evaluator.substitute index path) with
  | (.ok components, cache) =>
      (context.write bound components value).map fun (outcome, context) =>
        (outcome, context, cache)
  | (.error error, cache) => some (.error error, context, cache)

end Evaluator
end Storyboard
