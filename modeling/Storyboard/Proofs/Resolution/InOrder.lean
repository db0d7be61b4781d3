import Storyboard.Proofs.Expression.Reads
import Storyboard.Proofs.Resolution.Turns

/-!
# Variables in the order of their use

Where every expression reads only variables in front of it, its turn comes when these have the
values that the pass leaves them.  So one pass replaces each expression by what it evaluates to on
the variables after the pass, and if no expression results, the next pass has nothing to write.
-/

namespace Storyboard
namespace Evaluator

section Definitions

variable (evaluator : Evaluator) (index : Option Nat)

/-- The variables that the evaluation of an expression reads, if they are set at all, stand in front
of the one that holds the expression. -/
def ReadsEarlier (bindings : Variables) : Prop :=
  ∀ entry ∈ bindings, evaluator.isExpression entry.2 = true →
    ∀ path ∈ evaluator.reads entry.2, ∀ base ∈ evaluator.base? index path,
      base ∈ Table.keys bindings → base ∈ Table.front bindings entry.1

/-- No expression results from evaluating the expressions in order, each when its turn comes. -/
def YieldsNoExpression (stored : List (String × Node)) (bindings : Variables) : Prop :=
  ∀ entry ∈ bindings, evaluator.isExpression entry.2 = true →
    evaluator.isExpression
      (evaluator.result ⟨evaluator.seen index stored bindings entry.1, index, stored⟩ entry.2) =
        false

end Definitions

section Pass

variable {evaluator : Evaluator} {index : Option Nat} {stored : List (String × Node)}
  {bindings : Variables}

/-- When the turn of a variable comes, all variables but the ones from its own on are as the pass
leaves them. -/
theorem get?_seen_eq_get?_pass
    (distinct : Table.Distinct bindings)
    {name other : String}
    (member : name ∈ Table.keys bindings)
    (earlier : other ∈ Table.keys bindings → other ∈ Table.front bindings name) :
    Table.get? (evaluator.seen index stored bindings name) other =
      Table.get? (evaluator.pass index stored bindings) other := by
  by_cases isKey : other ∈ Table.keys bindings
  · exact get?_seen_of_mem distinct member (earlier isKey)
  · have absent := (Table.get?_eq_none_iff bindings other).mpr isKey
    have absentAfter : Table.get? (evaluator.pass index stored bindings) other = none := by
      rwa [Table.get?_eq_none_iff, keys_pass]
    rw [get?_seen_of_not_mem bindings fun before => isKey (Table.mem_keys_of_mem_front before),
      absent, absentAfter]

variable (stored) in
/-- An expression that reads variables in front of it evaluates to the same when its turn comes and
after the pass. -/
theorem result_seen
    (builtIn : evaluator.operators ⊆ Operator.builtin)
    (distinct : Table.Distinct bindings)
    (reads : evaluator.ReadsEarlier index bindings)
    {name : String}
    {value : Node}
    (found : Table.get? bindings name = some value)
    (expression : evaluator.isExpression value = true) :
    evaluator.result ⟨evaluator.seen index stored bindings name, index, stored⟩ value =
      evaluator.result ⟨evaluator.pass index stored bindings, index, stored⟩ value := by
  have finds : ∀ path ∈ evaluator.reads value,
      evaluator.look ⟨evaluator.seen index stored bindings name, index, stored⟩ path =
        evaluator.look ⟨evaluator.pass index stored bindings, index, stored⟩ path :=
    fun path isRead => evaluator.look_congr index stored fun base starts =>
      get?_seen_eq_get?_pass distinct (Table.mem_keys_of_get?_eq_some found)
        (reads (name, value) (Table.mem_of_get?_eq_some found) expression path isRead base starts)
  rw [← (evaluator.evaluate_of_faithful _ value Path.Cache.faithful_nil).1,
    ← (evaluator.evaluate_of_faithful _ value Path.Cache.faithful_nil).1]
  exact fst_evaluate_congr builtIn finds rfl Path.Cache.faithful_nil Path.Cache.faithful_nil

variable (index stored) in
/-- A pass leaves an expression alone that evaluates to itself when its turn comes, and otherwise it
leaves what the expression evaluates to. -/
theorem get?_pass_of_expression
    (distinct : Table.Distinct bindings)
    {name : String}
    {value : Node}
    (found : Table.get? bindings name = some value)
    (expression : evaluator.isExpression value = true) :
    let result := evaluator.result ⟨evaluator.seen index stored bindings name, index, stored⟩ value
    (Node.same result value = true ∧
        Table.get? (evaluator.pass index stored bindings) name = some value) ∨
      Table.get? (evaluator.pass index stored bindings) name = some result := by
  intro result
  have turn : Table.get? (evaluator.seen index stored bindings name) name = some value := by
    rw [get?_seen_self, found]
  rw [get?_pass distinct (Table.mem_keys_of_get?_eq_some found), found]
  cases same : Node.same result value with
  | true =>
      have idle : evaluator.resolved? index stored
          (evaluator.seen index stored bindings name) name = none := by
        rw [resolved?_eq_none_iff]
        intro held isHeld _
        obtain rfl : value = held := Option.some.inj (turn.symm.trans isHeld)
        exact same
      exact .inl ⟨rfl, by rw [idle]; rfl⟩
  | false =>
      have written : evaluator.resolved? index stored
          (evaluator.seen index stored bindings name) name = some result :=
        resolved?_eq_some_iff.mpr ⟨value, turn, expression, rfl, same⟩
      exact .inr (by rw [written]; rfl)

/-- Where expressions read variables in front of them and none results, a pass leaves nothing to be
written. -/
theorem resolved?_pass
    (builtIn : evaluator.operators ⊆ Operator.builtin)
    (distinct : Table.Distinct bindings)
    (reads : evaluator.ReadsEarlier index bindings)
    (yields : evaluator.YieldsNoExpression index stored bindings)
    (name : String) :
    evaluator.resolved? index stored (evaluator.pass index stored bindings) name = none := by
  rw [resolved?_eq_none_iff]
  intro held isHeld expression
  cases found : Table.get? bindings name with
  | none =>
      rw [Table.get?_eq_none_iff, ← keys_pass evaluator index stored] at found
      exact absurd (Table.mem_keys_of_get?_eq_some isHeld) found
  | some value =>
      cases literal : evaluator.isExpression value with
      | false =>
          rw [get?_pass_of_literal found literal, Option.some.injEq] at isHeld
          rw [isHeld, expression] at literal
          cases literal
      | true =>
          rcases get?_pass_of_expression index stored distinct found literal with
            ⟨same, kept⟩ | written
          · obtain rfl : value = held := Option.some.inj (kept.symm.trans isHeld)
            rwa [← result_seen stored builtIn distinct reads found literal]
          · have plain := yields (name, value) (Table.mem_of_get?_eq_some found) literal
            rw [Option.some.inj (written.symm.trans isHeld), expression] at plain
            cases plain

end Pass

/--
Suppose that the operators are built in, that observers only watch, that every expression reads only
variables in front of it, and that no expression results when they are evaluated in order.  Then a
resolution that may make two passes converges in at most two.  In the end each variable that held an
expression holds what this evaluates to on the variables as they are in the end, or a node that is
structurally equal to it.
-/
theorem resolve_in_order
    (evaluator : Evaluator)
    (builtIn : evaluator.operators ⊆ Operator.builtin)
    (bound : Nat)
    (index : Option Nat)
    (stored : List (String × Node))
    {cap : Nat}
    (two : 2 ≤ cap)
    {context : Context}
    {cache : Path.Cache}
    (quiet : context.Quiet)
    (faithful : cache.Faithful)
    (distinct : Table.Distinct context.bindings)
    (reads : evaluator.ReadsEarlier index context.bindings)
    (yields : evaluator.YieldsNoExpression index stored context.bindings) :
    ∃ passes final left,
      evaluator.resolve bound index stored cap context cache =
        some (⟨passes, true⟩, final, left) ∧
      passes ≤ 2 ∧
      ∀ name value, context.get? name = some value → evaluator.isExpression value = true →
        ∃ held, final.get? name = some held ∧
          ∀ remembered : Path.Cache, remembered.Faithful →
            let result :=
              (evaluator.evaluate ⟨final.bindings, index, stored⟩ value remembered).1
            held = result ∨ Node.same result held = true := by
  have settled : ∀ name, evaluator.resolved? index stored
      ((evaluator.pass index stored)^[1] context.bindings) name = none :=
    resolved?_pass builtIn distinct reads yields
  obtain ⟨passes, final, left, ended, within, bindings⟩ :=
    resolve_of_settled bound quiet faithful settled two
  rw [Function.iterate_one] at bindings
  refine ⟨passes, final, left, ended, within, fun name value found expression => ?_⟩
  have lasting := result_seen stored builtIn distinct reads found expression
  rw [Context.get?, bindings]
  rcases get?_pass_of_expression index stored distinct found expression with
    ⟨same, kept⟩ | written
  · refine ⟨value, kept, fun remembered faithful => .inr ?_⟩
    rwa [(evaluator.evaluate_of_faithful _ value faithful).1, ← lasting]
  · refine ⟨_, written, fun remembered faithful => .inl ?_⟩
    rw [(evaluator.evaluate_of_faithful _ value faithful).1, lasting]

/-- In a loop row, a greeting reads a row of names, and a banner reads the greeting. -/
theorem resolve_in_order_of_greeting :
    let evaluator : Evaluator := ⟨Operator.builtin, "$index"⟩
    let read (path : String) : Node := .mapping [("var", .string path)]
    let greeting : Node :=
      .mapping [("String.concat", .sequence [.string "Hello, ", read "names[$index]"])]
    let banner : Node := .mapping [("String.concat", .sequence [read "greeting", .string "!"])]
    let context : Context :=
      { bindings :=
          [("names", .sequence [.string "Ada", .string "Grace"]), ("greeting", greeting),
            ("banner", banner), ("draft", read "nobody")]
        observers := [⟨0, Observer.watch⟩]
        nextObserver := 1 }
    evaluator.operators ⊆ Operator.builtin ∧ context.Quiet ∧ Table.Distinct context.bindings ∧
      evaluator.ReadsEarlier (some 1) context.bindings ∧
      evaluator.YieldsNoExpression (some 1) [] context.bindings ∧
      ∃ passes final left,
        evaluator.resolve 0 (some 1) [] 2 context [] = some (⟨passes, true⟩, final, left) ∧
        passes ≤ 2 ∧
        ∃ held, final.get? "banner" = some held ∧
          let result := (evaluator.evaluate ⟨final.bindings, some 1, []⟩ banner []).1
          held = result ∨ Node.same result held = true := by
  intro evaluator read greeting banner context
  have builtIn : evaluator.operators ⊆ Operator.builtin := fun _ member => member
  have quiet : context.Quiet := by
    intro observer member
    obtain rfl : observer = ⟨0, Observer.watch⟩ := by simpa [context] using member
    exact Observer.passive_watch 0
  have distinct : Table.Distinct context.bindings := by decide +kernel
  have reads : evaluator.ReadsEarlier (some 1) context.bindings := by
    unfold ReadsEarlier
    decide +kernel
  have yields : evaluator.YieldsNoExpression (some 1) [] context.bindings := by
    unfold YieldsNoExpression
    decide +kernel
  obtain ⟨passes, final, left, ended, within, holds⟩ :=
    resolve_in_order evaluator builtIn 0 (some 1) [] (Nat.le_refl 2) quiet
      Path.Cache.faithful_nil distinct reads yields
  obtain ⟨held, isHeld, evaluated⟩ := holds "banner" banner rfl (by decide +kernel)
  exact ⟨builtIn, quiet, distinct, reads, yields, passes, final, left, ended, within, held, isHeld,
    evaluated [] Path.Cache.faithful_nil⟩

end Evaluator
end Storyboard
