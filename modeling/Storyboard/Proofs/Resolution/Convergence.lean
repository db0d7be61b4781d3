import Mathlib.Data.Set.Card
import Mathlib.Logic.Relation
import Storyboard.Proofs.Resolution.Turns

/-!
# Variables that refer to one another without cycles

A variable refers to the variables that its value mentions.  Where these references have no
cycle, every write to a variable leaves it referring to variables of a lower rank.  So as
many passes as there are variables leave nothing to be written, whatever their order is.
-/

namespace Storyboard
namespace Evaluator

section References

variable (evaluator : Evaluator) (index : Option Nat)

/-- A variable refers to those that its value mentions. -/
def Refers (bindings : Variables) (name other : String) : Prop :=
  ∃ value, Table.get? bindings name = some value ∧ other ∈ evaluator.mentions index value

/-- A variable depends on those that it refers to, and on what these depend on. -/
def DependsOn (bindings : Variables) : String → String → Prop :=
  Relation.TransGen (evaluator.Refers index bindings)

/-- Variables that refer to one another through literal paths and without cycles, under operators
that make no containers and with a plain store. -/
structure Tractable (stored : List (String × Node)) (bindings : Variables) : Prop where
  /-- Operators do not look at the variables and make no containers. -/
  tame : ∀ name operator, Table.get? evaluator.operators name = some operator → operator.Tame
  /-- No expression is stored. -/
  store : ∀ entry ∈ stored, evaluator.Plain entry.2
  /-- No variable comes twice. -/
  distinct : Table.Distinct bindings
  /-- Paths are given as they are. -/
  proper : ∀ entry ∈ bindings, evaluator.Proper entry.2
  /-- No variable depends on itself. -/
  acyclic : ∀ name, ¬ evaluator.DependsOn index bindings name name

/-- The number of variables that a variable depends on. -/
noncomputable def rank (bindings : Variables) (name : String) : Nat :=
  {other | other ∈ Table.keys bindings ∧ evaluator.DependsOn index bindings name other}.ncard

/-- Every variable holds a value that mentions only what the variable depends on. -/
def Traced (bindings after : Variables) : Prop :=
  ∀ name value, Table.get? after name = some value →
    evaluator.Proper value ∧
      ∀ other ∈ evaluator.mentions index value, evaluator.DependsOn index bindings name other

/-- An expression that is left in a variable after some passes mentions only variables of a rank that
is lower by more than the number of passes. -/
def Due (bindings : Variables) (passes : Nat) (after : Variables) (name : String) : Prop :=
  ∀ value, Table.get? after name = some value → evaluator.isExpression value = true →
    passes ≤ evaluator.rank index bindings name ∧
      ∀ other ∈ evaluator.mentions index value, other ∈ Table.keys bindings →
        evaluator.rank index bindings other + passes < evaluator.rank index bindings name

/-- A value is left in a variable for good: it mentions no variable, and nothing would be
written. -/
def Stuck (stored : List (String × Node)) (bindings after : Variables) (name : String) : Prop :=
  ∃ value, Table.get? after name = some value ∧
    (∀ other ∈ evaluator.mentions index value, other ∉ Table.keys bindings) ∧
    evaluator.resolved? index stored after name = none

end References

/-- Where a height falls along all references, no variable depends on itself. -/
theorem acyclic_of_height
    {evaluator : Evaluator}
    {index : Option Nat}
    {bindings : Variables}
    (height : String → Nat)
    (falls : ∀ entry ∈ bindings, ∀ other ∈ evaluator.mentions index entry.2,
      height other < height entry.1)
    (name : String) :
    ¬ evaluator.DependsOn index bindings name name := by
  have below : ∀ other, evaluator.DependsOn index bindings name other →
      height other < height name := by
    intro other depends
    induction depends with
    | single refers =>
        obtain ⟨value, found, member⟩ := refers
        exact falls _ (Table.mem_of_get?_eq_some found) _ member
    | tail _ refers inductionHypothesis =>
        obtain ⟨value, found, member⟩ := refers
        exact Nat.lt_trans (falls _ (Table.mem_of_get?_eq_some found) _ member) inductionHypothesis
  exact fun depends => Nat.lt_irrefl _ (below name depends)

section Ranks

variable {evaluator : Evaluator} {index : Option Nat} {bindings : Variables}
  (acyclic : ∀ name, ¬ evaluator.DependsOn index bindings name name)

theorem finite_keys (property : String → Prop) :
    {other | other ∈ Table.keys bindings ∧ property other}.Finite :=
  (List.finite_toSet (Table.keys bindings)).subset fun _ both => both.1

include acyclic

/-- A variable has a higher rank than those that it depends on. -/
theorem rank_lt_of_dependsOn
    {name other : String}
    (depends : evaluator.DependsOn index bindings name other)
    (member : other ∈ Table.keys bindings) :
    evaluator.rank index bindings other < evaluator.rank index bindings name := by
  refine Set.ncard_lt_ncard ⟨?_, ?_⟩ (finite_keys _)
  · exact fun _ both => ⟨both.1, depends.trans both.2⟩
  · exact fun within => acyclic other (within ⟨member, depends⟩).2

theorem rank_lt_length
    {name : String}
    (member : name ∈ Table.keys bindings) :
    evaluator.rank index bindings name < bindings.length := by
  have all : {other | other ∈ Table.keys bindings}.ncard ≤ bindings.length := by
    have card := List.toFinset_card_le (Table.keys bindings)
    rw [← Set.ncard_coe_finset, List.coe_toFinset] at card
    simpa [Table.keys] using card
  refine Nat.lt_of_lt_of_le (Set.ncard_lt_ncard ⟨?_, ?_⟩ (List.finite_toSet _)) all
  · exact fun _ both => both.1
  · exact fun within => acyclic name (within member).2

end Ranks

section Tractable

variable {evaluator : Evaluator} {index : Option Nat} {stored : List (String × Node)}
  {bindings after : Variables}

/-! ## What is written -/

/-- At the start every variable mentions what it refers to. -/
theorem Tractable.traced
    (tractable : evaluator.Tractable index stored bindings) :
    evaluator.Traced index bindings bindings :=
  fun _ value found => ⟨tractable.proper _ (Table.mem_of_get?_eq_some found),
    fun _ member => .single ⟨value, found, member⟩⟩

/-- The result of an expression mentions only what the variables depend on that the expression
mentions. -/
theorem Tractable.mentions_result
    (tractable : evaluator.Tractable index stored bindings)
    (traced : evaluator.Traced index bindings after)
    {value : Node}
    (proper : evaluator.Proper value) :
    evaluator.Proper (evaluator.result ⟨after, index, stored⟩ value) ∧
      ∀ other ∈ evaluator.mentions index (evaluator.result ⟨after, index, stored⟩ value),
        ∃ middle ∈ evaluator.mentions index value, middle ∈ Table.keys after ∧
          evaluator.DependsOn index bindings middle other :=
  mentions_meaningTo tractable.tame ⟨after, index, stored⟩ tractable.store levelLimit
    proper fun middle member held found => by
      obtain ⟨properHeld, depends⟩ := traced middle held found
      exact ⟨properHeld, fun other within =>
        ⟨middle, member, Table.mem_keys_of_get?_eq_some found, depends other within⟩⟩

/-- The result of an expression that mentions no variable is plain. -/
theorem Tractable.plain_result
    (tractable : evaluator.Tractable index stored bindings)
    (after : Variables)
    {value : Node}
    (proper : evaluator.Proper value)
    (absent : ∀ other ∈ evaluator.mentions index value, other ∉ Table.keys after) :
    evaluator.Plain (evaluator.result ⟨after, index, stored⟩ value) :=
  plain_meaningTo tractable.tame ⟨after, index, stored⟩ tractable.store levelLimit
    proper fun other member _ found =>
      absurd (Table.mem_keys_of_get?_eq_some found) (absent other member)

/-- Every write leaves a variable mentioning only what it depends on. -/
theorem Tractable.traced_resolveName
    (tractable : evaluator.Tractable index stored bindings)
    (traced : evaluator.Traced index bindings after)
    (name : String) :
    evaluator.Traced index bindings (evaluator.resolveName index stored after name) := by
  intro other held found
  by_cases same : name = other
  · subst same
    rw [get?_resolveName_self] at found
    cases written : evaluator.resolved? index stored after name with
    | none =>
        rw [written, Option.none_or] at found
        exact traced name held found
    | some result =>
        rw [written, Option.some_or, Option.some.injEq] at found
        subst found
        obtain ⟨value, holds, -, rfl, -⟩ := resolved?_eq_some_iff.mp written
        obtain ⟨proper, depends⟩ := traced name value holds
        obtain ⟨properResult, within⟩ := tractable.mentions_result traced proper
        refine ⟨properResult, fun last member => ?_⟩
        obtain ⟨middle, mentioned, -, onward⟩ := within last member
        exact (depends middle mentioned).trans onward
  · rw [get?_resolveName_of_ne after same] at found
    exact traced other held found

theorem Tractable.traced_foldl
    (tractable : evaluator.Tractable index stored bindings)
    (traced : evaluator.Traced index bindings after)
    (names : List String) :
    evaluator.Traced index bindings
      (names.foldl (evaluator.resolveName index stored) after) := by
  induction names generalizing after with
  | nil => exact traced
  | cons name rest inductionHypothesis =>
      exact inductionHypothesis (tractable.traced_resolveName traced name)

/-! ## One pass -/

/-- What is written to a variable is the same wherever the variables that its value mentions are
absent. -/
theorem Tractable.resolved?_of_absent
    (tractable : evaluator.Tractable index stored bindings)
    {others : Variables}
    {name : String}
    {value : Node}
    (found : Table.get? after name = some value)
    (foundOthers : Table.get? others name = some value)
    (absent : ∀ other ∈ evaluator.mentions index value,
      other ∉ Table.keys after ∧ other ∉ Table.keys others) :
    evaluator.resolved? index stored others name =
      evaluator.resolved? index stored after name := by
  refine resolved?_congr tractable.tame (foundOthers.trans found.symm) ?_
  intro held holds _ other member
  obtain rfl : value = held := by simpa [foundOthers] using holds
  obtain ⟨here, there⟩ := absent other member
  rw [(Table.get?_eq_none_iff _ _).mpr here, (Table.get?_eq_none_iff _ _).mpr there]

theorem Tractable.distinct_of_keys
    (tractable : evaluator.Tractable index stored bindings)
    (keys : Table.keys after = Table.keys bindings) :
    Table.Distinct after := by
  rw [Table.Distinct, keys]
  exact tractable.distinct

/-- A value that mentions no variable and is not written when its turn comes is left for good. -/
theorem Tractable.stuck_pass_of_idle
    (tractable : evaluator.Tractable index stored bindings)
    (keys : Table.keys after = Table.keys bindings)
    {name : String}
    {value : Node}
    (found : Table.get? after name = some value)
    (absent : ∀ other ∈ evaluator.mentions index value, other ∉ Table.keys bindings)
    (idle : evaluator.resolved? index stored (evaluator.seen index stored after name) name = none) :
    evaluator.Stuck index stored bindings (evaluator.pass index stored after) name := by
  have foundPass : Table.get? (evaluator.pass index stored after) name = some value := by
    rw [get?_pass (tractable.distinct_of_keys keys) (Table.mem_keys_of_get?_eq_some found), idle,
      Option.none_or, found]
  refine ⟨value, foundPass, absent, ?_⟩
  rw [tractable.resolved?_of_absent ((get?_seen_self after name).trans found) foundPass, idle]
  intro other member
  rw [seen, keys_foldl, keys_pass, keys]
  exact ⟨absent other member, absent other member⟩

/-- A value that is left for good outlasts a pass. -/
theorem Tractable.stuck_pass
    (tractable : evaluator.Tractable index stored bindings)
    (keys : Table.keys after = Table.keys bindings)
    {name : String}
    (stuck : evaluator.Stuck index stored bindings after name) :
    evaluator.Stuck index stored bindings (evaluator.pass index stored after) name := by
  obtain ⟨value, found, absent, idle⟩ := stuck
  refine tractable.stuck_pass_of_idle keys found absent ?_
  rw [tractable.resolved?_of_absent found ((get?_seen_self after name).trans found), idle]
  intro other member
  rw [seen, keys_foldl, keys]
  exact ⟨absent other member, absent other member⟩

/-- An expression whose result is the expression again mentions no variable: its
result would mention only variables of a lower rank than some that it mentions itself. -/
theorem Tractable.absent_of_same
    (tractable : evaluator.Tractable index stored bindings)
    (keys : Table.keys after = Table.keys bindings)
    (traced : evaluator.Traced index bindings after)
    {value : Node}
    (proper : evaluator.Proper value)
    (same : Node.same (evaluator.result ⟨after, index, stored⟩ value) value = true) :
    ∀ other ∈ evaluator.mentions index value, other ∉ Table.keys bindings := by
  obtain ⟨properResult, within⟩ := tractable.mentions_result traced proper
  have higher : ∀ other ∈ evaluator.mentions index value, other ∈ Table.keys bindings →
      ∃ middle ∈ evaluator.mentions index value, middle ∈ Table.keys bindings ∧
        evaluator.rank index bindings other < evaluator.rank index bindings middle := by
    intro other member present
    obtain ⟨middle, mentioned, isKey, depends⟩ :=
      within other (mem_mentions_of_same same properResult proper member)
    exact ⟨middle, mentioned, keys ▸ isKey, rank_lt_of_dependsOn tractable.acyclic depends present⟩
  intro other member present
  -- Ranks would rise without end along the variables that are mentioned.
  have climbs : ∀ height, ∃ middle ∈ evaluator.mentions index value,
      middle ∈ Table.keys bindings ∧ height ≤ evaluator.rank index bindings middle := by
    intro height
    induction height with
    | zero => exact ⟨other, member, present, Nat.zero_le _⟩
    | succ height inductionHypothesis =>
        obtain ⟨middle, mentioned, isKey, above⟩ := inductionHypothesis
        obtain ⟨next, mentionedNext, isKeyNext, rises⟩ := higher middle mentioned isKey
        exact ⟨next, mentionedNext, isKeyNext, Nat.lt_of_le_of_lt above rises⟩
  obtain ⟨middle, -, isKey, above⟩ := climbs bindings.length
  exact Nat.not_lt_of_le above (rank_lt_length tractable.acyclic isKey)

/-- Of a value that is no expression nothing is due. -/
theorem due_pass_of_literal
    {name : String}
    {value : Node}
    (found : Table.get? after name = some value)
    (literal : evaluator.isExpression value = false)
    (passes : Nat) :
    evaluator.Due index bindings passes (evaluator.pass index stored after) name := by
  intro left foundLeft expression
  rw [get?_pass_of_literal found literal, Option.some.injEq] at foundLeft
  rw [foundLeft, expression] at literal
  cases literal

/-- Of a variable that is not there nothing is due. -/
theorem due_pass_of_absent
    {name : String}
    (absent : Table.get? after name = none)
    (passes : Nat) :
    evaluator.Due index bindings passes (evaluator.pass index stored after) name := by
  intro left foundLeft
  rw [Table.get?_eq_none_iff, ← evaluator.keys_pass index stored] at absent
  exact absurd (Table.mem_keys_of_get?_eq_some foundLeft) absent

/-- What is written to a variable is due after one more pass: it mentions only variables of a lower rank
than one that the expression mentions, and it is plain if there is none of these. -/
theorem Tractable.due_pass_of_written
    (tractable : evaluator.Tractable index stored bindings)
    (keys : Table.keys after = Table.keys bindings)
    (traced : evaluator.Traced index bindings after)
    {passes : Nat}
    {name : String}
    (due : evaluator.Due index bindings passes after name)
    {result : Node}
    (written : evaluator.resolved? index stored (evaluator.seen index stored after name) name =
      some result) :
    evaluator.Due index bindings (passes + 1) (evaluator.pass index stored after) name := by
  have keysSeen : Table.keys (evaluator.seen index stored after name) = Table.keys bindings :=
    (keys_foldl _ after).trans keys
  have tracedSeen : evaluator.Traced index bindings (evaluator.seen index stored after name) :=
    tractable.traced_foldl traced _
  obtain ⟨value, foundSeen, expression, rfl, -⟩ := resolved?_eq_some_iff.mp written
  have found : Table.get? after name = some value := (get?_seen_self after name).symm.trans foundSeen
  have proper := (traced name value found).1
  obtain ⟨-, lower⟩ := due value found expression
  obtain ⟨-, within⟩ := tractable.mentions_result tracedSeen proper
  intro left foundLeft expressionLeft
  rw [get?_pass (tractable.distinct_of_keys keys) (Table.mem_keys_of_get?_eq_some found), written,
    Option.some_or, Option.some.injEq] at foundLeft
  subst foundLeft
  constructor
  · by_cases present : ∃ other ∈ evaluator.mentions index value, other ∈ Table.keys bindings
    · obtain ⟨other, member, isKey⟩ := present
      have below := lower other member isKey
      omega
    · have plain := tractable.plain_result (evaluator.seen index stored after name)
        proper fun other member isKey => present ⟨other, member, keysSeen ▸ isKey⟩
      rw [plain.self.2] at expressionLeft
      cases expressionLeft
  · intro other member isKey
    obtain ⟨middle, mentioned, isMiddle, depends⟩ := within other member
    have below := lower middle mentioned (keysSeen ▸ isMiddle)
    have drops := rank_lt_of_dependsOn tractable.acyclic depends isKey
    omega

/-- In a pass, an expression that is due is replaced by what is due after one more pass, or it is left
for good. -/
theorem Tractable.due_or_stuck_pass
    (tractable : evaluator.Tractable index stored bindings)
    (keys : Table.keys after = Table.keys bindings)
    (traced : evaluator.Traced index bindings after)
    {passes : Nat}
    {name : String}
    (before : evaluator.Due index bindings passes after name ∨
      evaluator.Stuck index stored bindings after name) :
    evaluator.Due index bindings (passes + 1) (evaluator.pass index stored after) name ∨
      evaluator.Stuck index stored bindings (evaluator.pass index stored after) name := by
  rcases before with due | stuck
  case inr => exact .inr (tractable.stuck_pass keys stuck)
  cases found : Table.get? after name with
  | none => exact .inl (due_pass_of_absent found _)
  | some value =>
      cases expression : evaluator.isExpression value with
      | false => exact .inl (due_pass_of_literal found expression _)
      | true =>
          cases written :
              evaluator.resolved? index stored (evaluator.seen index stored after name) name with
          | some result => exact .inl (tractable.due_pass_of_written keys traced due written)
          | none =>
              have same := resolved?_eq_none_iff.mp written value
                ((get?_seen_self after name).trans found) expression
              have absent := tractable.absent_of_same ((keys_foldl _ after).trans keys)
                (tractable.traced_foldl traced _) (traced name value found).1 same
              exact .inr (tractable.stuck_pass_of_idle keys found absent written)

/-! ## All passes -/

/-- After any number of passes, the same variables are there, they mention only what they depend on,
and every expression is due or left for good. -/
theorem Tractable.iterate_pass
    (tractable : evaluator.Tractable index stored bindings)
    (passes : Nat) :
    Table.keys ((evaluator.pass index stored)^[passes] bindings) = Table.keys bindings ∧
      evaluator.Traced index bindings ((evaluator.pass index stored)^[passes] bindings) ∧
      ∀ name, evaluator.Due index bindings passes
          ((evaluator.pass index stored)^[passes] bindings) name ∨
        evaluator.Stuck index stored bindings
          ((evaluator.pass index stored)^[passes] bindings) name := by
  induction passes with
  | zero =>
      refine ⟨rfl, tractable.traced, fun name => .inl fun value found _ => ⟨Nat.zero_le _, ?_⟩⟩
      intro other member isKey
      exact rank_lt_of_dependsOn tractable.acyclic ((tractable.traced name value found).2 other
        member) isKey
  | succ passes inductionHypothesis =>
      obtain ⟨keys, traced, all⟩ := inductionHypothesis
      rw [Function.iterate_succ_apply']
      exact ⟨(keys_pass _ _ _ _).trans keys, tractable.traced_foldl traced _,
        fun name => tractable.due_or_stuck_pass keys traced (all name)⟩

/-- As many passes as there are variables leave nothing to be written. -/
theorem Tractable.resolved?_iterate_pass
    (tractable : evaluator.Tractable index stored bindings)
    (name : String) :
    evaluator.resolved? index stored
      ((evaluator.pass index stored)^[bindings.length] bindings) name = none := by
  obtain ⟨keys, -, all⟩ := tractable.iterate_pass bindings.length
  rcases all name with due | ⟨-, -, -, idle⟩
  · refine resolved?_eq_none_iff.mpr fun value found expression => ?_
    have isKey := keys ▸ Table.mem_keys_of_get?_eq_some found
    exact absurd (due value found expression).1
      (Nat.not_le_of_lt (rank_lt_length tractable.acyclic isKey))
  · exact idle

end Tractable
end Evaluator
end Storyboard
