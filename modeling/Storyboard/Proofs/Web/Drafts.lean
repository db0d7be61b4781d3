import Storyboard.Command
import Storyboard.Proofs.Expression.Recall

/-!
# What a draft reads

A draft looks at fields one after another, and each look may change what is remembered
but no later look.  The draft therefore comes to what the values of the fields describe,
and the first of them at fault decides the error.
-/

namespace Storyboard
namespace Web

/-- The request that the values of fields describe; the first one at fault, in the order address,
method, headers, body, decides the error. -/
def Rules.reading (rules : Rules) (value : String → Node) : Except RequestError Request := do
  let url ← rules.address (value "url")
  let method ← rules.verb (value "method")
  let headers ← rules.headers (value "headers")
  let body ← content (value "body")
  return .make url method headers body

section Looks

variable {σ α β : Type} {field : String → σ → Node × σ} {value : String → Node}
  {property : σ → Prop}
  (reads : ∀ key {state}, property state →
    (field key state).1 = value key ∧ property (field key state).2)

include reads

theorem look_spec
    {check : Node → Except RequestError α}
    {next : α → σ → Except RequestError β × σ}
    {verdict : α → Except RequestError β}
    (spec : ∀ found {state}, property state →
      (next found state).1 = verdict found ∧ property (next found state).2)
    (key : String)
    {state : σ}
    (holds : property state) :
    (look field key check next state).1 = (check (value key) >>= verdict) ∧
      property (look field key check next state).2 := by
  obtain ⟨same, kept⟩ := reads key holds
  unfold look proceed
  dsimp only
  rw [same]
  cases check (value key) with
  | error error => exact ⟨rfl, kept⟩
  | ok found => exact spec found kept

/-- A draft comes to what the values of its fields describe. -/
theorem draft_spec
    (rules : Rules)
    {state : σ}
    (holds : property state) :
    (rules.draft field state).1 = rules.reading value ∧
      property (rules.draft field state).2 := by
  refine look_spec reads (fun url => ?_) "url" holds
  refine look_spec reads (fun method => ?_) "method"
  refine look_spec reads (fun headers => ?_) "headers"
  refine look_spec reads (fun body => ?_) "body"
  exact fun kept => ⟨rfl, kept⟩

end Looks
end Web

namespace Session

/-- A session in which nothing but the parsed paths may have changed, and every path is parsed with
the same outcome. -/
def Recalls (session other : Session) : Prop :=
  ∃ paths : Path.Cache, paths.Agrees session.paths ∧ other = { session with paths := paths }

theorem Recalls.refl (session : Session) : session.Recalls session :=
  ⟨session.paths, .refl _, rfl⟩

/-- An evaluation returns what it would have returned before. -/
theorem Recalls.evaluate
    {session other : Session}
    (recalls : session.Recalls other)
    (evaluator : Evaluator)
    (index : Option Nat)
    (node : Node) :
    (other.evaluate evaluator index node).1 = (session.evaluate evaluator index node).1 ∧
      session.Recalls (other.evaluate evaluator index node).2 := by
  obtain ⟨paths, agrees, rfl⟩ := recalls
  obtain ⟨same, kept⟩ := evaluator.evaluate_recall (session.scope index) node agrees
  have sameScope : Session.scope { session with paths := paths } index = session.scope index := rfl
  unfold Session.evaluate
  rw [sameScope]
  exact ⟨same, (evaluator.evaluate (session.scope index) node paths).2, kept, rfl⟩

theorem Recalls.evaluateField
    {session other : Session}
    (recalls : session.Recalls other)
    (frame : Frame)
    (payload : Node)
    (key : String) :
    (frame.evaluateField payload key other).1 = (frame.evaluateField payload key session).1 ∧
      session.Recalls (frame.evaluateField payload key other).2 := by
  unfold Frame.evaluateField Session.evaluateField
  cases payload.get? key with
  | none => exact ⟨rfl, recalls⟩
  | some node => exact recalls.evaluate frame.evaluator frame.index node

/-- What the field of a payload is evaluated to. -/
def field (session : Session) (frame : Frame) (payload : Node) (key : String) : Node :=
  (frame.evaluateField payload key session).1

/-- A draft comes to what the fields of a payload are evaluated to, whatever has been evaluated
before. -/
theorem Recalls.draft
    {session other : Session}
    (recalls : session.Recalls other)
    (frame : Frame)
    (payload : Node) :
    (frame.rules.draft (frame.evaluateField payload) other).1 =
        frame.rules.reading (session.field frame payload) ∧
      session.Recalls (frame.rules.draft (frame.evaluateField payload) other).2 :=
  Web.draft_spec (fun key _ recalls => recalls.evaluateField frame payload key) frame.rules recalls

end Session
end Storyboard
