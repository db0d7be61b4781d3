import Storyboard.Proofs.Context.Quiet
import Storyboard.Proofs.Expression.Meaning
import Storyboard.Resolution

/-!
# Passes of a resolution

Where observers only watch, a pass of a resolution is one function of the context: the
variables are replaced one after another, each on sight of what became of those before.
A variable is written exactly when the result of its expression is not the expression
again, and every write counts.  A pass that writes nothing would write nothing again.
-/

namespace Storyboard
namespace Evaluator

/-- An expression is a mapping. -/
theorem exists_mapping_of_isExpression
    {evaluator : Evaluator}
    {node : Node}
    (expression : evaluator.isExpression node = true) :
    ∃ entries, node = .mapping entries := by
  cases node with
  | mapping entries => exact ⟨entries, rfl⟩
  | _ => cases expression

section Variables

variable (evaluator : Evaluator) (index : Option Nat) (stored : List (String × Node))

/-- What a resolution writes to a variable: the result of the expression that it holds, unless that
is the expression again. -/
def resolved? (bindings : Variables) (name : String) : Option Node :=
  match Table.get? bindings name with
  | none => none
  | some value =>
      if evaluator.isExpression value then
        let result := evaluator.result ⟨bindings, index, stored⟩ value
        if Node.same result value then none else some result
      else none

/-- The variables after one of them was resolved. -/
def resolveName (bindings : Variables) (name : String) : Variables :=
  match evaluator.resolved? index stored bindings name with
  | none => bindings
  | some value => Table.insert bindings name value

/-- The variables after a pass. -/
def pass (bindings : Variables) : Variables :=
  (Table.keys bindings).foldl (evaluator.resolveName index stored) bindings

/-- The context after one variable was resolved. -/
def resolveOne (context : Context) (name : String) : Context :=
  match evaluator.resolved? index stored context.bindings name with
  | none => context
  | some value => context.revise ⟨name, some value⟩

/-- The context after a pass over all variables. -/
def resolveAll (context : Context) : Context :=
  context.names.foldl (evaluator.resolveOne index stored) context

variable {evaluator : Evaluator} {index : Option Nat} {stored : List (String × Node)}

/-- A variable is written when it holds an expression of another result. -/
theorem resolved?_eq_some_iff
    {bindings : Variables}
    {name : String}
    {result : Node} :
    evaluator.resolved? index stored bindings name = some result ↔
      ∃ value, Table.get? bindings name = some value ∧ evaluator.isExpression value = true ∧
        evaluator.result ⟨bindings, index, stored⟩ value = result ∧
        Node.same result value = false := by
  unfold resolved?
  cases Table.get? bindings name with
  | none => simp
  | some value =>
      cases expression : evaluator.isExpression value with
      | false => simp [expression]
      | true =>
          simp only [if_true, Option.some.injEq, exists_eq_left', expression, true_and]
          constructor
          · intro written
            split at written
            · cases written
            · next differs =>
                cases written
                exact ⟨rfl, by simpa using differs⟩
          · rintro ⟨rfl, differs⟩
            rw [differs, if_neg (by decide)]

/-- A variable is not written when it holds no expression, or one whose result it is. -/
theorem resolved?_eq_none_iff
    {bindings : Variables}
    {name : String} :
    evaluator.resolved? index stored bindings name = none ↔
      ∀ value, Table.get? bindings name = some value → evaluator.isExpression value = true →
        Node.same (evaluator.result ⟨bindings, index, stored⟩ value) value = true := by
  constructor
  · intro idle value found expression
    cases same : Node.same (evaluator.result ⟨bindings, index, stored⟩ value) value with
    | true => rfl
    | false =>
        have written : evaluator.resolved? index stored bindings name =
            some (evaluator.result ⟨bindings, index, stored⟩ value) :=
          resolved?_eq_some_iff.mpr ⟨value, found, expression, rfl, same⟩
        rw [idle] at written
        cases written
  · intro same
    cases written : evaluator.resolved? index stored bindings name with
    | none => rfl
    | some result =>
        obtain ⟨value, found, expression, rfl, differs⟩ := resolved?_eq_some_iff.mp written
        rw [same value found expression] at differs
        cases differs

/-! ## The variables alone -/

theorem get?_resolveName_self
    (bindings : Variables)
    (name : String) :
    Table.get? (evaluator.resolveName index stored bindings name) name =
      (evaluator.resolved? index stored bindings name).or (Table.get? bindings name) := by
  unfold resolveName
  cases evaluator.resolved? index stored bindings name with
  | none => rfl
  | some value =>
      rw [Table.get?_insert, if_pos rfl]
      rfl

theorem get?_resolveName_of_ne
    (bindings : Variables)
    {name other : String}
    (apart : name ≠ other) :
    Table.get? (evaluator.resolveName index stored bindings name) other =
      Table.get? bindings other := by
  unfold resolveName
  cases evaluator.resolved? index stored bindings name with
  | none => rfl
  | some value => rw [Table.get?_insert, if_neg apart]

theorem keys_resolveName
    (bindings : Variables)
    (name : String) :
    Table.keys (evaluator.resolveName index stored bindings name) = Table.keys bindings := by
  unfold resolveName
  cases written : evaluator.resolved? index stored bindings name with
  | none => rfl
  | some value =>
      obtain ⟨old, found, -⟩ := resolved?_eq_some_iff.mp written
      rw [Table.keys_insert, if_pos (by simp [Table.contains, found])]

/-- A variable that holds no expression is not touched. -/
theorem get?_resolveName_of_literal
    {bindings : Variables}
    {other : String}
    {value : Node}
    (found : Table.get? bindings other = some value)
    (literal : evaluator.isExpression value = false)
    (name : String) :
    Table.get? (evaluator.resolveName index stored bindings name) other = some value := by
  by_cases same : name = other
  · subst same
    have idle : evaluator.resolved? index stored bindings name = none := by
      simp [resolved?, found, literal]
    rw [get?_resolveName_self, idle, found]
    rfl
  · rw [get?_resolveName_of_ne bindings same, found]

theorem keys_foldl
    (names : List String)
    (bindings : Variables) :
    Table.keys (names.foldl (evaluator.resolveName index stored) bindings) =
      Table.keys bindings := by
  induction names generalizing bindings with
  | nil => rfl
  | cons name rest inductionHypothesis =>
      rw [List.foldl_cons, inductionHypothesis, keys_resolveName]

theorem get?_foldl_of_literal
    (names : List String)
    {bindings : Variables}
    {other : String}
    {value : Node}
    (found : Table.get? bindings other = some value)
    (literal : evaluator.isExpression value = false) :
    Table.get? (names.foldl (evaluator.resolveName index stored) bindings) other = some value := by
  induction names generalizing bindings with
  | nil => exact found
  | cons name rest inductionHypothesis =>
      exact inductionHypothesis (get?_resolveName_of_literal found literal name)

/-! ## One variable -/

/-- One variable is left as it is, or it is written, which counts as a change. -/
theorem resolveOne_cases
    (evaluator : Evaluator)
    (index : Option Nat)
    (stored : List (String × Node))
    (context : Context)
    (name : String) :
    (evaluator.resolved? index stored context.bindings name = none ∧
      evaluator.resolveOne index stored context name = context) ∨
    ∃ value, evaluator.resolved? index stored context.bindings name = some value ∧
      evaluator.resolveOne index stored context name =
        (context.record ⟨name, some value⟩).commit ⟨name, some value⟩ := by
  unfold resolveOne
  cases written : evaluator.resolved? index stored context.bindings name with
  | none => exact Or.inl ⟨rfl, rfl⟩
  | some value =>
      obtain ⟨old, found, expression, -, -⟩ := resolved?_eq_some_iff.mp written
      obtain ⟨entries, rfl⟩ := exists_mapping_of_isExpression expression
      have busy : context.idle ⟨name, some value⟩ = false := by
        have present : context.get? name = some (.mapping entries) := found
        simp [Context.idle, present]
      exact Or.inr ⟨value, rfl, Context.revise_of_not_idle busy⟩

theorem bindings_resolveOne
    (context : Context)
    (name : String) :
    (evaluator.resolveOne index stored context name).bindings =
      evaluator.resolveName index stored context.bindings name := by
  unfold resolveName
  rcases evaluator.resolveOne_cases index stored context name with
    ⟨idle, same⟩ | ⟨value, written, same⟩
  · rw [idle, same]
  · rw [written, same]
    rfl

theorem quiet_resolveOne
    {context : Context}
    (quiet : context.Quiet)
    (name : String) :
    (evaluator.resolveOne index stored context name).Quiet := by
  unfold resolveOne
  split
  · exact quiet
  · exact quiet.revise _

variable (evaluator index stored) in
/-- The revision tells whether the variable was written. -/
theorem revision_resolveOne
    (context : Context)
    (name : String) :
    (evaluator.resolveOne index stored context name).revision =
      context.revision +
        if (evaluator.resolved? index stored context.bindings name).isSome then 1 else 0 := by
  rcases evaluator.resolveOne_cases index stored context name with
    ⟨idle, same⟩ | ⟨value, written, same⟩
  · rw [idle, same]
    rfl
  · rw [written, same]
    rfl

variable (evaluator index stored) in
/-- Where observers only watch, the resolution of a variable has a closed form. -/
theorem resolveVariable_of_quiet
    (bound : Nat)
    {context : Context}
    {cache : Path.Cache}
    (quiet : context.Quiet)
    (faithful : cache.Faithful)
    (changed : Bool)
    (name : String) :
    ∃ remembered : Path.Cache, remembered.Faithful ∧
      evaluator.resolveVariable bound index stored ⟨context, cache, changed⟩ name =
        some ⟨evaluator.resolveOne index stored context name, remembered,
          changed || (evaluator.resolved? index stored context.bindings name).isSome⟩ := by
  have found : context.get? name = Table.get? context.bindings name := rfl
  unfold resolveVariable resolveOne resolved?
  simp only [found]
  cases Table.get? context.bindings name with
  | none => exact ⟨cache, faithful, by simp⟩
  | some value =>
      cases expression : evaluator.isExpression value with
      | false => exact ⟨cache, faithful, by simp [expression]⟩
      | true =>
          obtain ⟨outcome, kept⟩ := evaluator.evaluate_of_faithful
            ⟨context.bindings, index, stored⟩ value faithful
          refine ⟨_, kept, ?_⟩
          simp only [expression, if_true, outcome]
          split
          · simp
          · rw [Context.set, Context.update_of_quiet bound _ quiet]
            simp

/-! ## One pass -/

theorem quiet_foldl
    (names : List String)
    {context : Context}
    (quiet : context.Quiet) :
    (names.foldl (evaluator.resolveOne index stored) context).Quiet := by
  induction names generalizing context with
  | nil => exact quiet
  | cons name rest inductionHypothesis => exact inductionHypothesis (quiet_resolveOne quiet name)

theorem bindings_foldl
    (names : List String)
    (context : Context) :
    (names.foldl (evaluator.resolveOne index stored) context).bindings =
      names.foldl (evaluator.resolveName index stored) context.bindings := by
  induction names generalizing context with
  | nil => rfl
  | cons name rest inductionHypothesis =>
      rw [List.foldl_cons, inductionHypothesis, bindings_resolveOne, List.foldl_cons]

variable (evaluator index stored) in
theorem revision_le_foldl
    (names : List String)
    (context : Context) :
    context.revision ≤ (names.foldl (evaluator.resolveOne index stored) context).revision := by
  induction names generalizing context with
  | nil => exact Nat.le_refl _
  | cons name rest inductionHypothesis =>
      have first : (evaluator.resolveOne index stored context name).revision =
          context.revision + _ := evaluator.revision_resolveOne index stored context name
      have others := inductionHypothesis (evaluator.resolveOne index stored context name)
      rw [List.foldl_cons]
      omega

/-- Names that are resolved without a write leave the context as it is. -/
theorem foldl_of_revision_le
    {names : List String}
    {context : Context}
    (still : (names.foldl (evaluator.resolveOne index stored) context).revision ≤
      context.revision) :
    names.foldl (evaluator.resolveOne index stored) context = context ∧
      ∀ name ∈ names, evaluator.resolved? index stored context.bindings name = none := by
  induction names generalizing context with
  | nil => exact ⟨rfl, by simp⟩
  | cons name rest inductionHypothesis =>
      rw [List.foldl_cons] at still ⊢
      rcases evaluator.resolveOne_cases index stored context name with
        ⟨idle, same⟩ | ⟨value, written, same⟩
      · rw [same] at still ⊢
        obtain ⟨unchanged, others⟩ := inductionHypothesis still
        refine ⟨unchanged, fun other member => ?_⟩
        rcases List.mem_cons.mp member with rfl | later
        · exact idle
        · exact others other later
      · have grown := evaluator.revision_le_foldl index stored rest
          (evaluator.resolveOne index stored context name)
        rw [revision_resolveOne, written] at grown
        simp only [Option.isSome_some, if_true] at grown
        omega

/-- Names without anything to write leave the context as it is. -/
theorem foldl_of_resolved?_eq_none
    {names : List String}
    {context : Context}
    (idle : ∀ name ∈ names, evaluator.resolved? index stored context.bindings name = none) :
    names.foldl (evaluator.resolveOne index stored) context = context := by
  induction names with
  | nil => rfl
  | cons name rest inductionHypothesis =>
      have first : evaluator.resolveOne index stored context name = context := by
        simp [resolveOne, idle name List.mem_cons_self]
      rw [List.foldl_cons, first]
      exact inductionHypothesis fun other member => idle other (List.mem_cons_of_mem name member)

variable (evaluator index stored) in
/-- Where observers only watch, names are resolved one after another, and it is noted whether the
revision has grown. -/
theorem foldlM_resolveVariable_of_quiet
    (bound : Nat)
    (names : List String)
    {context : Context}
    {cache : Path.Cache}
    (quiet : context.Quiet)
    (faithful : cache.Faithful)
    (changed : Bool) :
    ∃ remembered : Path.Cache, remembered.Faithful ∧
      names.foldlM (evaluator.resolveVariable bound index stored) ⟨context, cache, changed⟩ =
        some ⟨names.foldl (evaluator.resolveOne index stored) context, remembered,
          changed || decide (context.revision <
            (names.foldl (evaluator.resolveOne index stored) context).revision)⟩ := by
  induction names generalizing context cache changed with
  | nil => exact ⟨cache, faithful, by simp⟩
  | cons name rest inductionHypothesis =>
      obtain ⟨middle, faithfulMiddle, first⟩ :=
        evaluator.resolveVariable_of_quiet index stored bound quiet faithful changed name
      have quietMiddle : (evaluator.resolveOne index stored context name).Quiet :=
        quiet_resolveOne quiet name
      obtain ⟨remembered, kept, others⟩ := inductionHypothesis quietMiddle faithfulMiddle _
      refine ⟨remembered, kept, ?_⟩
      rw [List.foldlM_cons, first]
      refine others.trans ?_
      have step := evaluator.revision_resolveOne index stored context name
      have grown := evaluator.revision_le_foldl index stored rest
        (evaluator.resolveOne index stored context name)
      rw [List.foldl_cons]
      cases written : evaluator.resolved? index stored context.bindings name with
      | none =>
          simp only [written, Option.isSome_none, Bool.false_eq_true, if_false] at step
          simp [step]
      | some value =>
          simp only [written, Option.isSome_some, if_true] at step
          have counted : context.revision < (rest.foldl (evaluator.resolveOne index stored)
              (evaluator.resolveOne index stored context name)).revision := by omega
          simp [counted]

theorem bindings_resolveAll (context : Context) :
    (evaluator.resolveAll index stored context).bindings =
      evaluator.pass index stored context.bindings :=
  bindings_foldl context.names context

/-- A pass leaves the variables and their order. -/
theorem names_resolveAll (context : Context) :
    (evaluator.resolveAll index stored context).names = context.names := by
  rw [Context.names, bindings_resolveAll]
  exact keys_foldl (Table.keys context.bindings) context.bindings

variable (evaluator index stored) in
/-- Where observers only watch, a pass resolves all variables, and it has changed something when the
revision has grown. -/
theorem resolvePass_of_quiet
    (bound : Nat)
    {context : Context}
    {cache : Path.Cache}
    (quiet : context.Quiet)
    (faithful : cache.Faithful) :
    ∃ remembered : Path.Cache, remembered.Faithful ∧
      evaluator.resolvePass bound index stored context cache =
        some ⟨evaluator.resolveAll index stored context, remembered,
          decide (context.revision < (evaluator.resolveAll index stored context).revision)⟩ := by
  obtain ⟨remembered, kept, pass⟩ := evaluator.foldlM_resolveVariable_of_quiet index stored bound
    context.names quiet faithful false
  refine ⟨remembered, kept, pass.trans ?_⟩
  rw [Bool.false_or]
  rfl

end Variables
end Evaluator
end Storyboard
