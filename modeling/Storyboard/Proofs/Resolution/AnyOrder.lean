import Storyboard.Proofs.Resolution.Copies

/-!
# Resolutions in any order of the variables

Variables that refer to one another without cycles are resolved in any order.  What they
end with may depend on the order: an operator that is applied while a variable that it
reads still holds an expression takes the expression for its operand, and its result
stays.  It does not depend on the order where every expression stands behind what it
depends on, but for reads of whole variables, which may stand anywhere.
-/

namespace Storyboard
namespace Evaluator

/-- The variable reads another one as a whole, and what it depends on hides no expressions. -/
structure Forwards (evaluator : Evaluator) (index : Option Nat) (bindings : Variables)
    (name : String) : Prop where
  /-- Its value is the read of a whole variable. -/
  copy : ∃ held other, Table.get? bindings name = some held ∧
    evaluator.copies? index held = some other
  /-- What it depends on holds simple values. -/
  simple : ∀ other value, evaluator.DependsOn index bindings name other →
    Table.get? bindings other = some value → evaluator.Simple value

variable {evaluator : Evaluator} {index : Option Nat} {stored : List (String × Node)}
  {bindings others : Variables}

/-- The read of a whole variable is a simple value. -/
theorem simple_of_copies?
    {node : Node}
    {other : String}
    (copy : evaluator.copies? index node = some other) :
    evaluator.Simple node := by
  have expression := isExpression_of_copies? copy
  obtain ⟨path, base, rfl, -, -⟩ := exists_of_copies? copy
  refine ⟨fun _ => rfl, fun literal => ?_⟩
  rw [expression] at literal
  cases literal

/-- A variable that reads another as a whole settles where all expressions are ordered or read a
variable as a whole. -/
theorem Forwards.settles
    {name : String}
    (forwards : evaluator.Forwards index bindings name)
    (arranged : ∀ other, evaluator.Expresses bindings other →
      evaluator.Ordered index bindings other ∨ evaluator.Forwards index bindings other) :
    evaluator.Settles index bindings name := by
  rintro other below value found
  have simple : evaluator.Simple value := by
    rcases below with rfl | depends
    · obtain ⟨held, source, start, copy⟩ := forwards.copy
      obtain rfl := Option.some.inj (start.symm.trans found)
      exact simple_of_copies? copy
    · exact forwards.simple other value depends found
  refine ⟨simple, fun expression noCopy => ?_⟩
  rcases arranged other ⟨value, found, expression⟩ with ordered | ⟨⟨held, source, start, copy⟩, -⟩
  · exact ordered
  · obtain rfl := Option.some.inj (start.symm.trans found)
    rw [noCopy] at copy
    cases copy

theorem Forwards.congr
    {name : String}
    (forwards : evaluator.Forwards index bindings name)
    (lookUps : Table.get? others = Table.get? bindings) :
    evaluator.Forwards index others name where
  copy := by
    rw [lookUps]
    exact forwards.copy
  simple other value := by
    rw [dependsOn_congr lookUps, lookUps]
    exact forwards.simple other value

/-- Where in both orders all expressions are ordered or read a variable as a whole, every variable
ends with the same value. -/
theorem Tractable.get?_settled_perm
    (tractable : evaluator.Tractable index stored bindings)
    (perm : bindings.Perm others)
    (arranged : ∀ name, evaluator.Expresses bindings name →
      (evaluator.Ordered index bindings name ∧ evaluator.Ordered index others name) ∨
        evaluator.Forwards index bindings name)
    (name : String) :
    Table.get? ((evaluator.pass index stored)^[bindings.length] bindings) name =
      Table.get? ((evaluator.pass index stored)^[others.length] others) name := by
  have lookUps := Table.get?_perm tractable.distinct perm
  by_cases expresses : evaluator.Expresses bindings name
  · rcases arranged name expresses with ⟨ordered, orderedOthers⟩ | forwards
    · rw [← perm.length_eq]
      exact get?_iterate_pass_of_ordered tractable perm ordered orderedOthers _
    · refine tractable.get?_iterate_pass_perm perm (forwards.settles fun other expressesOther =>
        (arranged other expressesOther).imp_left And.left)
        ((forwards.congr lookUps).settles fun other expressesOther => ?_)
      rw [expresses_congr lookUps] at expressesOther
      exact (arranged other expressesOther).imp And.right fun forwards => forwards.congr lookUps
  · rw [get?_iterate_pass_of_not_expresses expresses, get?_iterate_pass_of_not_expresses
      (by rw [expresses_congr lookUps]; exact expresses), lookUps]

theorem tame_builtin
    (placeholder : String)
    (name : String)
    (operator : Operator)
    (found : Table.get? (Evaluator.mk Operator.builtin placeholder).operators name =
      some operator) :
    operator.Tame :=
  Operator.tame_of_mem_builtin _ (Table.mem_of_get?_eq_some found)

/--
Variables that refer to one another through literal paths and without cycles are resolved in every
order by more passes than there are variables, under the built-in operators, over a store that holds
no expressions, and where observers only watch.

They end with the same values in two orders if every expression stands, in both, with all that it
depends on, behind the expressions that it depends on.  A read of a whole variable may stand anywhere
if what it depends on hides no expressions in other values.
-/
theorem resolve_perm
    (placeholder : String)
    (bound : Nat)
    (index : Option Nat)
    (stored : List (String × Node))
    (cap : Nat)
    {context other : Context}
    {cache cacheOther : Path.Cache}
    (quiet : context.Quiet)
    (quietOther : other.Quiet)
    (faithful : cache.Faithful)
    (faithfulOther : cacheOther.Faithful)
    (store : ∀ entry ∈ stored, (Evaluator.mk Operator.builtin placeholder).Plain entry.2)
    (distinct : Table.Distinct context.bindings)
    (perm : context.bindings.Perm other.bindings)
    (proper : ∀ entry ∈ context.bindings,
      (Evaluator.mk Operator.builtin placeholder).Proper entry.2)
    (acyclic : ∀ name, ¬ (Evaluator.mk Operator.builtin placeholder).DependsOn index
      context.bindings name name)
    (enough : context.bindings.length < cap) :
    let evaluator : Evaluator := ⟨Operator.builtin, placeholder⟩
    ∃ passes final left passesOther finalOther leftOther,
      evaluator.resolve bound index stored cap context cache =
        some (⟨passes, true⟩, final, left) ∧
      evaluator.resolve bound index stored cap other cacheOther =
        some (⟨passesOther, true⟩, finalOther, leftOther) ∧
      ((∀ name, evaluator.Expresses context.bindings name →
          (evaluator.Ordered index context.bindings name ∧
            evaluator.Ordered index other.bindings name) ∨
          evaluator.Forwards index context.bindings name) →
        ∀ name, final.get? name = finalOther.get? name) := by
  intro evaluator
  have tractable : evaluator.Tractable index stored context.bindings :=
    ⟨tame_builtin placeholder, store, distinct, proper, acyclic⟩
  have tractableOther := tractable.perm perm
  obtain ⟨passes, final, left, ended, -, settled⟩ := resolve_of_settled bound quiet faithful
    tractable.resolved?_iterate_pass enough
  obtain ⟨passesOther, finalOther, leftOther, endedOther, -, settledOther⟩ :=
    resolve_of_settled bound quietOther faithfulOther tractableOther.resolved?_iterate_pass
      (perm.length_eq ▸ enough)
  refine ⟨passes, final, left, passesOther, finalOther, leftOther, ended, endedOther,
    fun arranged name => ?_⟩
  rw [Context.get?, Context.get?, settled, settledOther]
  exact tractable.get?_settled_perm perm arranged name

/-- A choice and what it depends on are made after a label that reads it, and before. -/
theorem resolve_perm_of_label :
    let evaluator : Evaluator := ⟨Operator.builtin, "$index"⟩
    let label : String × Node := ("label", .mapping [("var", .string "chosen")])
    let flag : String × Node := ("flag", .mapping [("Logic.and", .sequence [.bool true])])
    let choice : Node :=
      .mapping [("condition", .mapping [("var", .string "flag")]), ("then", .string "yes")]
    let chosen : String × Node := ("chosen", .mapping [("Operator.if", choice)])
    let context : Context := { bindings := [label, flag, chosen] }
    let other : Context := { bindings := [flag, chosen, label] }
    context.Quiet ∧ other.Quiet ∧ context.bindings.Perm other.bindings ∧
      ∃ passes final left passesOther finalOther leftOther,
        evaluator.resolve 0 none [] 4 context [] = some (⟨passes, true⟩, final, left) ∧
        evaluator.resolve 0 none [] 4 other [] =
          some (⟨passesOther, true⟩, finalOther, leftOther) ∧
        ∀ name, final.get? name = finalOther.get? name := by
  intro evaluator label flag choice chosen context other
  have quiet : context.Quiet := nofun
  have quietOther : other.Quiet := nofun
  have perm : ([label] ++ [flag, chosen]).Perm ([flag, chosen] ++ [label]) :=
    List.perm_append_comm
  have acyclic : ∀ name, ¬ evaluator.DependsOn none context.bindings name name :=
    acyclic_of_height (fun name => ["flag", "chosen", "label"].idxOf name) (by decide +kernel)
  have simple : ∀ entry ∈ context.bindings, evaluator.Simple entry.2 := by decide +kernel
  have arranged : ∀ name, evaluator.Expresses context.bindings name →
      (evaluator.Ordered none context.bindings name ∧
        evaluator.Ordered none other.bindings name) ∨
      evaluator.Forwards none context.bindings name := by
    rintro name ⟨value, found, -⟩
    have member : name ∈ ["label", "flag", "chosen"] := Table.mem_keys_of_get?_eq_some found
    by_cases isLabel : name = "label"
    · subst isLabel
      exact .inr ⟨⟨label.2, "chosen", rfl, by decide +kernel⟩,
        fun other value _ found => simple _ (Table.mem_of_get?_eq_some found)⟩
    · have among : name ∈ ["flag", "chosen"] := by simpa [isLabel] using member
      exact .inl ⟨ordered_of_closed (by decide +kernel) among,
        ordered_of_closed (by decide +kernel) among⟩
  obtain ⟨passes, final, left, passesOther, finalOther, leftOther, ended, endedOther, same⟩ :=
    resolve_perm "$index" 0 none [] 4 quiet quietOther Path.Cache.faithful_nil
      Path.Cache.faithful_nil nofun (by decide) perm (by decide +kernel) acyclic (by decide)
  exact ⟨quiet, quietOther, perm, passes, final, left, passesOther, finalOther, leftOther, ended,
    endedOther, same arranged⟩

/-- How a resolution ends: whether it converged, and the texts of some variables. -/
def outcome (evaluator : Evaluator) (stored : List (String × Node)) (context : Context)
    (names : List String) : Option (Bool × List (Option String)) :=
  (evaluator.resolve 0 none stored 10 context []).map fun (report, final, _) =>
    (report.converged, names.map fun name => (final.get? name).bind Node.asString?)

/--
An operator that reads a variable in front of which it stands is applied to the expression that the
variable holds, so what it ends with depends on the order.  And a resolution does not end at all where
references lead in a circle through values that are no expressions, or through the store.
-/
theorem order_matters_to_operators :
    let evaluator : Evaluator := ⟨Operator.builtin, "$index"⟩
    let read (path : String) : Node := .mapping [("var", .string path)]
    let choice : Node :=
      .mapping [("condition", read "ready"), ("then", .string "yes"), ("else", .string "no")]
    let answer : String × Node := ("answer", .mapping [("Operator.if", choice)])
    let ready : String × Node := ("ready", .mapping [("Logic.and", .sequence [.bool true])])
    let context : Context := { bindings := [answer, ready] }
    let other : Context := { bindings := [ready, answer] }
    (context.Quiet ∧ other.Quiet ∧ Table.Distinct context.bindings ∧
      context.bindings.Perm other.bindings ∧ context.bindings.length < 10 ∧
      (∀ name, ¬ evaluator.DependsOn none context.bindings name name) ∧
      evaluator.outcome [] context ["answer"] = some (true, [some "no"]) ∧
      evaluator.outcome [] other ["answer"] = some (true, [some "yes"])) ∧
    evaluator.outcome []
      { bindings :=
          [("first", read "data.a"), ("data", .mapping [("a", read "data.b"), ("b", read "data.a")])] }
      [] = some (false, []) ∧
    evaluator.outcome
      [("a", .mapping [("Storage.get", .string "b")]), ("b", .mapping [("Storage.get", .string "a")])]
      { bindings := [("first", .mapping [("Storage.get", .string "a")])] } [] =
        some (false, []) := by
  intro evaluator read choice answer ready context other
  refine ⟨⟨nofun, nofun, by decide, .swap _ _ _, by decide, ?_, by decide +kernel,
    by decide +kernel⟩, by decide +kernel, by decide +kernel⟩
  exact acyclic_of_height (fun name => ["ready", "answer"].idxOf name) (by decide +kernel)

end Evaluator
end Storyboard
