import Storyboard.Proofs.Resolution.Convergence

/-!
# Variables behind what they depend on

A variable that stands, with all that it depends on, behind the expressions that it depends
on sees in every pass what that pass has made of them.  So it takes the same values, pass
after pass, in every order of the variables in which it stands like this.
-/

namespace Storyboard
namespace Evaluator

section Definitions

variable (evaluator : Evaluator) (index : Option Nat)

/-- A variable holds an expression. -/
def Expresses (bindings : Variables) (name : String) : Prop :=
  ∃ value, Table.get? bindings name = some value ∧ evaluator.isExpression value = true

/-- The variable, and every one that it depends on, stands behind all expressions that it depends
on. -/
def Ordered (bindings : Variables) (name : String) : Prop :=
  ∀ middle, middle = name ∨ evaluator.DependsOn index bindings name middle →
    evaluator.Expresses bindings middle →
    ∀ other, evaluator.DependsOn index bindings middle other →
      evaluator.Expresses bindings other → other ∈ Table.front bindings middle

end Definitions

variable {evaluator : Evaluator} {index : Option Nat} {stored : List (String × Node)}
  {bindings others : Variables}

/-- What an ordered variable depends on is ordered. -/
theorem Ordered.of_dependsOn
    {name other : String}
    (ordered : evaluator.Ordered index bindings name)
    (depends : evaluator.DependsOn index bindings name other) :
    evaluator.Ordered index bindings other := by
  rintro middle (rfl | onward)
  · exact ordered middle (.inr depends)
  · exact ordered middle (.inr (depends.trans onward))

/-- Variables are ordered when each of them stands behind all that it refers to, and they refer to no
others. -/
theorem ordered_of_closed
    {names : List String}
    (closed : ∀ entry ∈ bindings, entry.1 ∈ names →
      ∀ other ∈ evaluator.mentions index entry.2,
        other ∈ names ∧ other ∈ Table.front bindings entry.1)
    {name : String}
    (member : name ∈ names) :
    evaluator.Ordered index bindings name := by
  have before : ∀ {middle other}, middle ∈ names →
      evaluator.DependsOn index bindings middle other →
      other ∈ names ∧ other ∈ Table.front bindings middle := by
    intro middle other isName depends
    induction depends with
    | single refers =>
        obtain ⟨value, found, mentioned⟩ := refers
        exact closed _ (Table.mem_of_get?_eq_some found) isName _ mentioned
    | tail _ refers inductionHypothesis =>
        obtain ⟨value, found, mentioned⟩ := refers
        obtain ⟨isNext, inFront⟩ := inductionHypothesis
        obtain ⟨isLast, first⟩ := closed _ (Table.mem_of_get?_eq_some found) isNext _ mentioned
        exact ⟨isLast, Table.front_trans inFront first⟩
  rintro middle below - other depends -
  have isName : middle ∈ names := by
    rcases below with rfl | depends
    · exact member
    · exact (before member depends).1
  exact (before isName depends).2

theorem front_congr
    {entries others : Variables}
    (keys : Table.keys entries = Table.keys others)
    (name : String) :
    Table.front entries name = Table.front others name := by
  rw [Table.front, keys, Table.front]

/-! ## Other orders -/

/-- Dependence does not look at the order. -/
theorem dependsOn_congr
    (lookUps : Table.get? others = Table.get? bindings) :
    evaluator.DependsOn index others = evaluator.DependsOn index bindings := by
  unfold DependsOn Refers
  rw [lookUps]

theorem expresses_congr
    (lookUps : Table.get? others = Table.get? bindings) :
    evaluator.Expresses others = evaluator.Expresses bindings := by
  unfold Expresses
  rw [lookUps]

/-- In another order, variables refer to one another as they did. -/
theorem Tractable.perm
    (tractable : evaluator.Tractable index stored bindings)
    (perm : bindings.Perm others) :
    evaluator.Tractable index stored others where
  tame := tractable.tame
  store := tractable.store
  distinct := (perm.map Prod.fst).nodup tractable.distinct
  proper entry member := tractable.proper entry (perm.symm.subset member)
  acyclic name := by
    rw [dependsOn_congr (Table.get?_perm tractable.distinct perm)]
    exact tractable.acyclic name

/-! ## The values pass after pass -/

/-- A variable that holds no expression keeps its value through all passes. -/
theorem get?_iterate_pass_of_literal
    {name : String}
    {value : Node}
    (found : Table.get? bindings name = some value)
    (literal : evaluator.isExpression value = false)
    (passes : Nat) :
    Table.get? ((evaluator.pass index stored)^[passes] bindings) name = some value := by
  induction passes with
  | zero => exact found
  | succ passes inductionHypothesis =>
      rw [Function.iterate_succ_apply']
      exact get?_pass_of_literal inductionHypothesis literal

/-- A variable that is not there at the start is not there after any pass. -/
theorem get?_iterate_pass_of_absent
    {name : String}
    (absent : Table.get? bindings name = none)
    (passes : Nat) :
    Table.get? ((evaluator.pass index stored)^[passes] bindings) name = none := by
  rw [Table.get?_eq_none_iff] at absent ⊢
  induction passes with
  | zero => exact absent
  | succ passes inductionHypothesis =>
      rw [Function.iterate_succ_apply', keys_pass]
      exact inductionHypothesis

/-- A variable that expresses nothing is the same after all passes. -/
theorem get?_iterate_pass_of_not_expresses
    {name : String}
    (silent : ¬ evaluator.Expresses bindings name)
    (passes : Nat) :
    Table.get? ((evaluator.pass index stored)^[passes] bindings) name =
      Table.get? bindings name := by
  cases found : Table.get? bindings name with
  | none => exact get?_iterate_pass_of_absent found passes
  | some value =>
      have literal : evaluator.isExpression value = false :=
        Bool.eq_false_iff.mpr fun expression => silent ⟨value, found, expression⟩
      exact get?_iterate_pass_of_literal found literal passes

theorem Tractable.distinct_iterate_pass
    (tractable : evaluator.Tractable index stored bindings)
    (passes : Nat) :
    Table.Distinct ((evaluator.pass index stored)^[passes] bindings) :=
  tractable.distinct_of_keys (tractable.iterate_pass passes).1

/-- A variable that expresses nothing is the same in the middle of any pass. -/
theorem Tractable.get?_seen_of_not_expresses
    (tractable : evaluator.Tractable index stored bindings)
    {name other : String}
    (isKey : name ∈ Table.keys bindings)
    (silent : ¬ evaluator.Expresses bindings other)
    (passes : Nat) :
    Table.get? (evaluator.seen index stored
      ((evaluator.pass index stored)^[passes] bindings) name) other =
        Table.get? bindings other := by
  have distinct := tractable.distinct_iterate_pass passes
  rw [← (tractable.iterate_pass passes).1] at isKey
  rcases get?_seen_cases evaluator index stored distinct isKey other with before | after
  · rw [before, get?_iterate_pass_of_not_expresses silent]
  · rw [after, ← Function.iterate_succ_apply' (evaluator.pass index stored),
      get?_iterate_pass_of_not_expresses silent]

/-- An expression that is left after some passes is in a variable that held one at the start. -/
theorem expresses_of_iterate_pass
    {name : String}
    {value : Node}
    {passes : Nat}
    (found : Table.get? ((evaluator.pass index stored)^[passes] bindings) name = some value)
    (expression : evaluator.isExpression value = true) :
    evaluator.Expresses bindings name := by
  cases start : Table.get? bindings name with
  | none =>
      rw [get?_iterate_pass_of_absent start] at found
      cases found
  | some held =>
      cases literal : evaluator.isExpression held with
      | true => exact ⟨held, start, literal⟩
      | false =>
          rw [get?_iterate_pass_of_literal start literal, Option.some.injEq] at found
          rw [found, expression] at literal
          cases literal

/-- When the turn of an ordered variable comes, the expressions that it depends on have been replaced
by what the pass makes of them. -/
theorem Tractable.get?_seen_of_expresses
    (tractable : evaluator.Tractable index stored bindings)
    {name other : String}
    (ordered : evaluator.Ordered index bindings name)
    (expresses : evaluator.Expresses bindings name)
    (depends : evaluator.DependsOn index bindings name other)
    (expressesOther : evaluator.Expresses bindings other)
    (passes : Nat) :
    Table.get? (evaluator.seen index stored
        ((evaluator.pass index stored)^[passes] bindings) name) other =
      Table.get? ((evaluator.pass index stored)^[passes + 1] bindings) other := by
  have keys := (tractable.iterate_pass passes).1
  have before : other ∈ Table.front ((evaluator.pass index stored)^[passes] bindings) name := by
    rw [front_congr keys]
    exact ordered name (.inl rfl) expresses other depends expressesOther
  obtain ⟨value, found, -⟩ := expresses
  have isKey : name ∈ Table.keys ((evaluator.pass index stored)^[passes] bindings) :=
    keys ▸ Table.mem_keys_of_get?_eq_some found
  rw [get?_seen_of_mem (tractable.distinct_iterate_pass passes) isKey before,
    Function.iterate_succ_apply']

/-- What the next of some passes makes of a variable. -/
theorem Tractable.get?_iterate_pass_succ
    (tractable : evaluator.Tractable index stored bindings)
    (name : String)
    (passes : Nat) :
    Table.get? ((evaluator.pass index stored)^[passes + 1] bindings) name =
      (evaluator.resolved? index stored (evaluator.seen index stored
        ((evaluator.pass index stored)^[passes] bindings) name) name).or
        (Table.get? ((evaluator.pass index stored)^[passes] bindings) name) := by
  rw [Function.iterate_succ_apply']
  by_cases isKey : name ∈ Table.keys ((evaluator.pass index stored)^[passes] bindings)
  · exact get?_pass (tractable.distinct_iterate_pass passes) isKey
  · have absent := (Table.get?_eq_none_iff _ _).mpr isKey
    have idle : evaluator.resolved? index stored (evaluator.seen index stored
        ((evaluator.pass index stored)^[passes] bindings) name) name = none := by
      rw [resolved?, get?_seen_self, absent]
    rw [idle, absent, Option.none_or, Table.get?_eq_none_iff, keys_pass]
    exact isKey

/-- A variable that is ordered in two orders of the same variables has the same value in both after
every pass. -/
theorem get?_iterate_pass_of_ordered
    (tractable : evaluator.Tractable index stored bindings)
    (perm : bindings.Perm others)
    {name : String}
    (ordered : evaluator.Ordered index bindings name)
    (orderedOthers : evaluator.Ordered index others name)
    (passes : Nat) :
    Table.get? ((evaluator.pass index stored)^[passes] bindings) name =
      Table.get? ((evaluator.pass index stored)^[passes] others) name := by
  have lookUps := Table.get?_perm tractable.distinct perm
  have tractableOthers := tractable.perm perm
  induction passes generalizing name with
  | zero => exact (congrFun lookUps name).symm
  | succ passes samePass =>
      -- Within a pass, the ranks lead from a variable to those in front of it.
      induction rank : evaluator.rank index bindings name using Nat.strong_induction_on
        generalizing name with
      | _ _ sameLower =>
      subst rank
      have before := samePass ordered orderedOthers
      rw [tractable.get?_iterate_pass_succ, tractableOthers.get?_iterate_pass_succ, before]
      refine congrArg (Option.or · _) (resolved?_congr tractable.tame ?_ ?_)
      · rw [get?_seen_self, get?_seen_self, before]
      · intro value found expression other member
        rw [get?_seen_self] at found
        have depends := ((tractable.iterate_pass passes).2.1 name value found).2 other member
        have expresses := expresses_of_iterate_pass found expression
        by_cases expressesOther : evaluator.Expresses bindings other
        · have lower : evaluator.rank index bindings other < evaluator.rank index bindings name := by
            obtain ⟨held, isHeld, -⟩ := expressesOther
            exact rank_lt_of_dependsOn tractable.acyclic depends
              (Table.mem_keys_of_get?_eq_some isHeld)
          have sameOther := sameLower _ lower (ordered.of_dependsOn depends)
            (orderedOthers.of_dependsOn (dependsOn_congr lookUps ▸ depends)) rfl
          rw [tractable.get?_seen_of_expresses ordered expresses depends expressesOther, sameOther,
            tractableOthers.get?_seen_of_expresses orderedOthers
              (expresses_congr lookUps ▸ expresses) (dependsOn_congr lookUps ▸ depends)
              (expresses_congr lookUps ▸ expressesOther)]
        · obtain ⟨held, isHeld, -⟩ := expresses
          have isKey := Table.mem_keys_of_get?_eq_some isHeld
          have isKeyOthers := (perm.map Prod.fst).subset isKey
          rw [tractable.get?_seen_of_not_expresses isKey expressesOther,
            tractableOthers.get?_seen_of_not_expresses isKeyOthers
              (by rw [expresses_congr lookUps]; exact expressesOther), lookUps]

end Evaluator
end Storyboard
