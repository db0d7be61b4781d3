import Mathlib.Data.List.TakeWhile
import Mathlib.Logic.Function.Iterate
import Storyboard.Proofs.Context.Standing
import Storyboard.Proofs.Expression.References
import Storyboard.Proofs.Resolution.FixedPoint

/-!
# The turn of a variable

A pass takes the variables in order.  When the turn of a variable comes, those in front of
it have the values that the pass gives them, and the others still have those from before.
So what a pass makes of a variable is told by these values, and where some number of
passes leaves nothing to be written, a resolution that may go on for longer converges.
-/

namespace Storyboard

namespace Table

variable {α : Type}

/-- The keys in front of a key, the key, and the others. -/
theorem exists_keys_eq_front_append
    {entries : List (String × α)}
    {key : String}
    (member : key ∈ keys entries) :
    ∃ behind, keys entries = front entries key ++ key :: behind := by
  unfold front
  generalize keys entries = names at member ⊢
  induction names with
  | nil => cases member
  | cons name rest inductionHypothesis =>
      by_cases same : name = key
      · exact ⟨rest, by simp [same]⟩
      · have later : key ∈ rest := (List.mem_cons.mp member).resolve_left (Ne.symm same)
        obtain ⟨behind, split⟩ := inductionHypothesis later
        refine ⟨behind, ?_⟩
        rw [List.takeWhile_cons, if_pos (by simpa using same), List.cons_append, ← split]

theorem not_mem_front
    (entries : List (String × α))
    (key : String) :
    key ∉ front entries key := by
  intro member
  have apart := List.all_eq_true.mp List.all_takeWhile key member
  simp at apart

/-- What stands in front of a key that stands in front of another stands in front of that one. -/
theorem front_trans
    {entries : List (String × α)}
    {key middle name : String}
    (before : middle ∈ front entries key)
    (first : name ∈ front entries middle) :
    name ∈ front entries key := by
  by_cases member : key ∈ keys entries
  · obtain ⟨behind, split⟩ := exists_keys_eq_front_append member
    rw [front, split, takeWhile_append_of_mem before] at first
    exact (List.takeWhile_sublist _).subset first
  · have all : front entries key = keys entries :=
      List.takeWhile_eq_self_iff.mpr fun other isKey => by
        simpa using fun same : other = key => member (same ▸ isKey)
    rw [all]
    exact mem_keys_of_mem_front first

end Table

namespace Evaluator

variable {evaluator : Evaluator} {index : Option Nat} {stored : List (String × Node)}

section Turns

variable (evaluator index stored)

/-- The variables when the turn of one of them comes. -/
def seen (bindings : Variables) (name : String) : Variables :=
  (Table.front bindings name).foldl (evaluator.resolveName index stored) bindings

variable {evaluator index stored}

theorem get?_foldl_of_not_mem
    {names : List String}
    (bindings : Variables)
    {name : String}
    (absent : name ∉ names) :
    Table.get? (names.foldl (evaluator.resolveName index stored) bindings) name =
      Table.get? bindings name := by
  induction names generalizing bindings with
  | nil => rfl
  | cons first rest inductionHypothesis =>
      obtain ⟨apart, elsewhere⟩ := not_or.mp fun either => absent (List.mem_cons.mpr either)
      rw [List.foldl_cons, inductionHypothesis _ elsewhere,
        get?_resolveName_of_ne bindings (Ne.symm apart)]

variable (evaluator index stored) in
theorem keys_pass (bindings : Variables) :
    Table.keys (evaluator.pass index stored bindings) = Table.keys bindings :=
  keys_foldl _ bindings

theorem get?_pass_of_literal
    {bindings : Variables}
    {name : String}
    {value : Node}
    (found : Table.get? bindings name = some value)
    (literal : evaluator.isExpression value = false) :
    Table.get? (evaluator.pass index stored bindings) name = some value :=
  get?_foldl_of_literal _ found literal

/-- When its turn comes, a variable still has the value from before the pass, as all have that do not
stand in front of it. -/
theorem get?_seen_of_not_mem
    (bindings : Variables)
    {name other : String}
    (behind : other ∉ Table.front bindings name) :
    Table.get? (evaluator.seen index stored bindings name) other = Table.get? bindings other :=
  get?_foldl_of_not_mem bindings behind

theorem get?_seen_self
    (bindings : Variables)
    (name : String) :
    Table.get? (evaluator.seen index stored bindings name) name = Table.get? bindings name :=
  get?_seen_of_not_mem bindings (Table.not_mem_front bindings name)

/-- What a pass makes of a variable. -/
theorem get?_pass
    {bindings : Variables}
    (distinct : Table.Distinct bindings)
    {name : String}
    (member : name ∈ Table.keys bindings) :
    Table.get? (evaluator.pass index stored bindings) name =
      (evaluator.resolved? index stored (evaluator.seen index stored bindings name) name).or
        (Table.get? bindings name) := by
  obtain ⟨behind, split⟩ := Table.exists_keys_eq_front_append member
  have once : name ∉ behind := by
    have nodup : (Table.front bindings name ++ name :: behind).Nodup := split ▸ distinct
    exact (List.nodup_cons.mp (List.nodup_append.mp nodup).2.1).1
  rw [pass, split, List.foldl_append, List.foldl_cons, get?_foldl_of_not_mem _ once,
    get?_resolveName_self, ← seen, get?_seen_self]

/-- When the turn of a variable comes, those in front of it have the values that the pass gives
them. -/
theorem get?_seen_of_mem
    {bindings : Variables}
    (distinct : Table.Distinct bindings)
    {name other : String}
    (member : name ∈ Table.keys bindings)
    (before : other ∈ Table.front bindings name) :
    Table.get? (evaluator.seen index stored bindings name) other =
      Table.get? (evaluator.pass index stored bindings) other := by
  obtain ⟨behind, split⟩ := Table.exists_keys_eq_front_append member
  have once : other ∉ name :: behind := by
    have nodup : (Table.front bindings name ++ name :: behind).Nodup := split ▸ distinct
    exact fun later => (List.nodup_append.mp nodup).2.2 other before other later rfl
  rw [pass, split, List.foldl_append, get?_foldl_of_not_mem _ once, ← seen]

variable (evaluator index stored) in
/-- When the turn of a variable comes, each variable has the value from before the pass or from after
it. -/
theorem get?_seen_cases
    {bindings : Variables}
    (distinct : Table.Distinct bindings)
    {name : String}
    (member : name ∈ Table.keys bindings)
    (other : String) :
    Table.get? (evaluator.seen index stored bindings name) other = Table.get? bindings other ∨
      Table.get? (evaluator.seen index stored bindings name) other =
        Table.get? (evaluator.pass index stored bindings) other := by
  by_cases before : other ∈ Table.front bindings name
  · exact .inr (get?_seen_of_mem distinct member before)
  · exact .inl (get?_seen_of_not_mem bindings before)

/-- What is written to a variable depends on its value and on those that this mentions. -/
theorem resolved?_congr
    (tame : ∀ name operator, Table.get? evaluator.operators name = some operator → operator.Tame)
    {bindings others : Variables}
    {name : String}
    (same : Table.get? bindings name = Table.get? others name)
    (agree : ∀ value, Table.get? bindings name = some value →
      evaluator.isExpression value = true → ∀ other ∈ evaluator.mentions index value,
      Table.get? bindings other = Table.get? others other) :
    evaluator.resolved? index stored bindings name =
      evaluator.resolved? index stored others name := by
  unfold resolved?
  rw [← same]
  cases found : Table.get? bindings name with
  | none => rfl
  | some value =>
      cases expression : evaluator.isExpression value with
      | false => simp [expression]
      | true =>
          have equal : evaluator.result ⟨bindings, index, stored⟩ value =
              evaluator.result ⟨others, index, stored⟩ value :=
            meaningTo_congr tame index stored levelLimit (agree value found expression)
          simp only [expression, equal]

end Turns

/-! ## Resolutions that converge -/

namespace Course

variable {bound passes : Nat}

/-- The variables after some passes of a course are those that as many passes make of the first. -/
theorem bindings_contexts
    (course : Course evaluator bound index stored passes)
    (quiet : (course.contexts 0).Quiet)
    (faithful : (course.caches 0).Faithful)
    {pass : Nat}
    (within : pass ≤ passes) :
    (course.contexts pass).bindings =
      (evaluator.pass index stored)^[pass] (course.contexts 0).bindings := by
  induction pass with
  | zero => rfl
  | succ pass inductionHypothesis =>
      rw [course.contexts_succ quiet faithful within, bindings_resolveAll,
        inductionHypothesis (Nat.le_of_lt within), Function.iterate_succ_apply']

/-- A pass that finds nothing to be written writes nothing. -/
theorem not_writes_of_settled
    (course : Course evaluator bound index stored passes)
    (quiet : (course.contexts 0).Quiet)
    (faithful : (course.caches 0).Faithful)
    {pass : Nat}
    (below : pass < passes)
    (settled : ∀ name, evaluator.resolved? index stored
      ((evaluator.pass index stored)^[pass] (course.contexts 0).bindings) name = none) :
    ¬ course.Writes pass := by
  have unchanged : evaluator.resolveAll index stored (course.contexts pass) =
      course.contexts pass := by
    refine foldl_of_resolved?_eq_none fun name _ => ?_
    rw [course.bindings_contexts quiet faithful (Nat.le_of_lt below)]
    exact settled name
  rw [Writes, course.contexts_succ quiet faithful below, unchanged]
  exact Nat.lt_irrefl _

end Course

/-- Where some number of passes leaves nothing to be written, a resolution that may make more passes
converges, and it leaves the variables as these passes do. -/
theorem resolve_of_settled
    (bound : Nat)
    {context : Context}
    {cache : Path.Cache}
    (quiet : context.Quiet)
    (faithful : cache.Faithful)
    {count cap : Nat}
    (settled : ∀ name,
      evaluator.resolved? index stored ((evaluator.pass index stored)^[count] context.bindings)
        name = none)
    (enough : count < cap) :
    ∃ passes final left,
      evaluator.resolve bound index stored cap context cache =
        some (⟨passes, true⟩, final, left) ∧
      passes ≤ count + 1 ∧
      final.bindings = (evaluator.pass index stored)^[count] context.bindings := by
  obtain ⟨passes, converged, course, starts, remembers, ended, -, earlier, fixed, capped⟩ :=
    evaluator.resolveAfter_of_quiet index stored bound 0 cap quiet faithful
  rw [Nat.zero_add] at ended
  subst starts remembers
  cases converged with
  | false =>
      obtain ⟨rfl, all⟩ := capped rfl
      exact absurd (all count enough) (course.not_writes_of_settled quiet faithful enough settled)
  | true =>
      obtain ⟨last, rfl, still⟩ := fixed rfl
      obtain ⟨unchanged, -⟩ :=
        course.fixed_of_not_writes quiet faithful (Nat.lt_succ_self last) still
      have within : last ≤ count := by
        by_contra beyond
        exact course.not_writes_of_settled quiet faithful (by omega) settled
          (earlier count (by omega))
      refine ⟨last + 1, _, _, ended, Nat.succ_le_succ within, ?_⟩
      have fixedPoint : evaluator.pass index stored (course.contexts last).bindings =
          (course.contexts last).bindings := by
        rw [← bindings_resolveAll, ← course.contexts_succ quiet faithful (Nat.lt_succ_self last),
          unchanged]
      obtain ⟨more, rfl⟩ := Nat.exists_eq_add_of_le' within
      rw [unchanged, Function.iterate_add_apply,
        ← course.bindings_contexts quiet faithful (Nat.le_succ last)]
      exact (Function.iterate_fixed fixedPoint more).symm

end Evaluator
end Storyboard
