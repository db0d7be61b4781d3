import Storyboard.Proofs.Resolution.Order

/-!
# Reads of whole variables

A variable that reads another as a whole may stand in front of it.  It is then replaced by
the expression that the other one holds, or by what that one reads in turn, and a later
pass replaces it by the same value, for what the expression depends on has been settled by
the first pass.
-/

namespace Storyboard
namespace Evaluator

section Definitions

variable (evaluator : Evaluator) (index : Option Nat)

/-- The variable that a node reads as a whole. -/
def copies? : Node → Option String
  | .mapping entries =>
      (readPath? entries).bind fun path =>
        match Path.parse (evaluator.substitute index path) with
        | .ok [base] => base.name?
        | _ => none
  | _ => none

/-- A value that hides no expression: it is an expression under a single key, or none of its parts is
an expression. -/
def Simple (node : Node) : Prop :=
  (evaluator.isExpression node = true → (Path.entriesOf node).length = 1) ∧
    (evaluator.isExpression node = false → evaluator.Plain node)

instance : DecidablePred evaluator.Simple := fun node =>
  inferInstanceAs (Decidable ((evaluator.isExpression node = true →
    (Path.entriesOf node).length = 1) ∧ (evaluator.isExpression node = false →
      evaluator.Plain node)))

/-- The variable and what it depends on hold simple values, and where they hold an expression it is
the read of a whole variable or they are ordered. -/
def Settles (bindings : Variables) (name : String) : Prop :=
  ∀ other, other = name ∨ evaluator.DependsOn index bindings name other →
    ∀ value, Table.get? bindings other = some value →
      evaluator.Simple value ∧
        (evaluator.isExpression value = true → evaluator.copies? index value = none →
          evaluator.Ordered index bindings other)

/-- The values that a variable may take: its own; what the first pass makes of it; and, where it reads
another variable as a whole, the values that this one may take. -/
inductive Stage (stored : List (String × Node)) (bindings : Variables) : String → Node → Prop
  /-- A variable that is not there is read as `null`. -/
  | absent {name : String} (missing : Table.get? bindings name = none) :
      Stage stored bindings name .null
  /-- The value at the start. -/
  | own {name : String} {value : Node} (found : Table.get? bindings name = some value) :
      Stage stored bindings name value
  /-- The value after the first pass. -/
  | settled {name : String} {held value : Node} (found : Table.get? bindings name = some held)
      (noCopy : evaluator.copies? index held = none)
      (made : Table.get? (evaluator.pass index stored bindings) name = some value) :
      Stage stored bindings name value
  /-- A value of the variable that is read as a whole. -/
  | copied {name other : String} {held value : Node}
      (found : Table.get? bindings name = some held)
      (copy : evaluator.copies? index held = some other)
      (stage : Stage stored bindings other value) :
      Stage stored bindings name value

end Definitions

variable {evaluator : Evaluator} {index : Option Nat} {stored : List (String × Node)}
  {bindings others : Variables}

/-! ## Copies -/

theorem exists_of_copies?
    {node : Node}
    {other : String}
    (copy : evaluator.copies? index node = some other) :
    ∃ path base, node = .mapping [(variableKey, .string path)] ∧
      Path.parse (evaluator.substitute index path) = .ok [base] ∧ base.name? = some other := by
  cases node with
  | mapping entries =>
      obtain ⟨path, reads, whole⟩ := Option.bind_eq_some_iff.mp copy
      obtain rfl := (readPath?_eq_some_iff entries path).mp reads
      split at whole
      · next base parsed => exact ⟨path, base, rfl, parsed, whole⟩
      · cases whole
  | _ => cases copy

theorem isExpression_of_copies?
    {node : Node}
    {other : String}
    (copy : evaluator.copies? index node = some other) :
    evaluator.isExpression node = true := by
  obtain ⟨path, base, rfl, -, -⟩ := exists_of_copies? copy
  rw [isExpression_mapping]
  rfl

theorem copies?_of_literal
    {node : Node}
    (literal : evaluator.isExpression node = false) :
    evaluator.copies? index node = none := by
  cases copy : evaluator.copies? index node with
  | none => rfl
  | some other =>
      rw [isExpression_of_copies? copy] at literal
      cases literal

/-- The read of a whole variable mentions it. -/
theorem mem_mentions_of_copies?
    {node : Node}
    {other : String}
    (copy : evaluator.copies? index node = some other) :
    other ∈ evaluator.mentions index node := by
  obtain ⟨path, base, rfl, parsed, named⟩ := exists_of_copies? copy
  have reads : readPath? [(variableKey, .string path)] = some path := rfl
  refine mem_mentions_of_read reads ?_
  rw [base?, parsed]
  exact named

/-- The read of a whole variable finds its value. -/
theorem result_of_copies?
    {node : Node}
    {other : String}
    (copy : evaluator.copies? index node = some other)
    (after : Variables) :
    evaluator.result ⟨after, index, stored⟩ node = Node.ofOption (Table.get? after other) := by
  obtain ⟨path, base, rfl, parsed, named⟩ := exists_of_copies? copy
  have reads : readPath? [(variableKey, .string path)] = some path := rfl
  change evaluator.meaningTo ⟨after, index, stored⟩ levelLimit _ = _
  rw [levelLimit, meaningTo_of_read _ _ reads, look, parsed]
  simp only [Variables.read, Variables.walk?, named]
  cases Table.get? after other with
  | none => rfl
  | some value => simp

/-! ## Simple values -/

/-- An expression under a single key equals no node that is none. -/
theorem not_same_of_simple
    {node value : Node}
    (plain : evaluator.Plain node)
    (expression : evaluator.isExpression value = true)
    (simple : evaluator.Simple value) :
    Node.same node value = false := by
  obtain ⟨entries, rfl⟩ := exists_mapping_of_isExpression expression
  obtain ⟨⟨name, input⟩, rfl⟩ := List.length_eq_one_iff.mp (simple.1 expression)
  refine Bool.eq_false_iff.mpr fun equal => ?_
  obtain ⟨other, rfl, agrees⟩ := Node.exists_of_same_single equal
  have literal := plain.self.2
  rw [isExpression_mapping, Bool.or_eq_false_iff] at literal
  rw [isExpression_mapping, Bool.or_eq_true, Option.isSome_iff_exists] at expression
  rcases expression with ⟨path, reads⟩ | registered
  · obtain ⟨rfl, rfl⟩ : name = variableKey ∧ input = .string path := by
      simpa using (readPath?_eq_some_iff _ path).mp reads
    rw [Node.eq_string_of_same agrees] at literal
    cases literal.1
  · rw [registered] at literal
    cases literal.2

/-! ## Ordered variables with simple values -/

theorem Settles.of_dependsOn
    {name other : String}
    (settles : evaluator.Settles index bindings name)
    (depends : evaluator.DependsOn index bindings name other) :
    evaluator.Settles index bindings other := by
  rintro middle (rfl | onward)
  · exact settles middle (.inr depends)
  · exact settles middle (.inr (depends.trans onward))

/-- The first pass replaces an ordered expression by its result, which is plain. -/
theorem Tractable.pass_of_ordered
    (tractable : evaluator.Tractable index stored bindings)
    {name : String}
    (settles : evaluator.Settles index bindings name)
    (ordered : evaluator.Ordered index bindings name)
    {held : Node}
    (found : Table.get? bindings name = some held)
    (expression : evaluator.isExpression held = true) :
    evaluator.Plain
        (evaluator.result ⟨evaluator.seen index stored bindings name, index, stored⟩ held) ∧
      Table.get? (evaluator.pass index stored bindings) name =
        some (evaluator.result ⟨evaluator.seen index stored bindings name, index, stored⟩ held) := by
  induction rank : evaluator.rank index bindings name using Nat.strong_induction_on
    generalizing name held with
  | _ _ inductionHypothesis =>
  subst rank
  have isKey := Table.mem_keys_of_get?_eq_some found
  have plain : evaluator.Plain
      (evaluator.result ⟨evaluator.seen index stored bindings name, index, stored⟩ held) := by
    refine plain_meaningTo tractable.tame _ tractable.store levelLimit
      (tractable.traced name held found).1 fun other member value foundSeen => ?_
    have depends := (tractable.traced name held found).2 other member
    have simple := settles other (.inr depends)
    by_cases expresses : evaluator.Expresses bindings other
    · obtain ⟨heldOther, foundOther, expressionOther⟩ := expresses
      obtain ⟨plainOther, madeOther⟩ := inductionHypothesis _
        (rank_lt_of_dependsOn tractable.acyclic depends
          (Table.mem_keys_of_get?_eq_some foundOther))
        (settles.of_dependsOn depends) (ordered.of_dependsOn depends) foundOther expressionOther rfl
      have settled := tractable.get?_seen_of_expresses ordered ⟨held, found, expression⟩ depends
        ⟨heldOther, foundOther, expressionOther⟩ 0
      have isResult := (foundSeen.symm.trans settled).trans madeOther
      rw [Option.some.inj isResult]
      exact plainOther
    · have same := tractable.get?_seen_of_not_expresses isKey expresses 0
      have foundOther : Table.get? bindings other = some value := same.symm.trans foundSeen
      exact (simple value foundOther).1.2
        (Bool.eq_false_iff.mpr fun isExpr => expresses ⟨value, foundOther, isExpr⟩)
  refine ⟨plain, ?_⟩
  have written : evaluator.resolved? index stored (evaluator.seen index stored bindings name) name =
      some (evaluator.result ⟨evaluator.seen index stored bindings name, index, stored⟩ held) :=
    resolved?_eq_some_iff.mpr ⟨held, (get?_seen_self bindings name).trans found, expression, rfl,
      not_same_of_simple plain expression (settles name (.inl rfl) held found).1⟩
  rw [get?_pass tractable.distinct isKey, written, Option.some_or]

/-- From the first pass on, an ordered expression stays what that pass has made of it. -/
theorem Tractable.get?_iterate_pass_of_settles
    (tractable : evaluator.Tractable index stored bindings)
    {name : String}
    (settles : evaluator.Settles index bindings name)
    (ordered : evaluator.Ordered index bindings name)
    (expresses : evaluator.Expresses bindings name)
    (passes : Nat) :
    Table.get? ((evaluator.pass index stored)^[passes + 1] bindings) name =
      Table.get? (evaluator.pass index stored bindings) name := by
  obtain ⟨held, found, expression⟩ := expresses
  obtain ⟨plain, made⟩ := tractable.pass_of_ordered settles ordered found expression
  rw [Function.iterate_succ_apply, get?_iterate_pass_of_literal made plain.self.2, made]

/-- After the first pass, an ordered expression has the same result wherever it is evaluated. -/
theorem Tractable.result_of_later
    (tractable : evaluator.Tractable index stored bindings)
    {name : String}
    (settles : evaluator.Settles index bindings name)
    (ordered : evaluator.Ordered index bindings name)
    {held : Node}
    (found : Table.get? bindings name = some held)
    (expression : evaluator.isExpression held = true)
    {after : Variables}
    (later : ∀ other, ∃ passes, Table.get? after other =
      Table.get? ((evaluator.pass index stored)^[passes + 1] bindings) other) :
    evaluator.result ⟨after, index, stored⟩ held =
      evaluator.result ⟨evaluator.seen index stored bindings name, index, stored⟩ held := by
  refine meaningTo_congr tractable.tame index stored levelLimit fun other member => ?_
  have depends := (tractable.traced name held found).2 other member
  obtain ⟨passes, same⟩ := later other
  by_cases expresses : evaluator.Expresses bindings other
  · rw [same, tractable.get?_iterate_pass_of_settles (settles.of_dependsOn depends)
      (ordered.of_dependsOn depends) expresses]
    exact (tractable.get?_seen_of_expresses ordered ⟨held, found, expression⟩ depends expresses
      0).symm
  · rw [same, get?_iterate_pass_of_not_expresses expresses]
    exact (tractable.get?_seen_of_not_expresses (Table.mem_keys_of_get?_eq_some found) expresses
      0).symm

/-! ## The values that a variable takes -/

/-- An expression that a variable takes is the read of a whole variable that it depends on, or the
expression that an ordered variable holds at the start; and the variable may take what becomes of
it. -/
theorem Stage.of_isExpression
    (tractable : evaluator.Tractable index stored bindings)
    {name : String}
    {value : Node}
    (stage : evaluator.Stage index stored bindings name value)
    (settles : evaluator.Settles index bindings name)
    (expression : evaluator.isExpression value = true) :
    (∃ other, evaluator.copies? index value = some other ∧
      evaluator.DependsOn index bindings name other ∧
      ∀ next, evaluator.Stage index stored bindings other next →
        evaluator.Stage index stored bindings name next) ∨
    ∃ other, evaluator.Settles index bindings other ∧ evaluator.Ordered index bindings other ∧
      evaluator.Simple value ∧ Table.get? bindings other = some value ∧
      ∀ next, Table.get? (evaluator.pass index stored bindings) other = some next →
        evaluator.Stage index stored bindings name next := by
  induction stage with
  | absent missing => cases expression
  | @own name value found =>
      obtain ⟨simple, mayOrder⟩ := settles name (.inl rfl) value found
      cases copy : evaluator.copies? index value with
      | some other =>
          exact .inl ⟨other, rfl, .single ⟨value, found, mem_mentions_of_copies? copy⟩,
            fun next stage => .copied found copy stage⟩
      | none =>
          exact .inr ⟨name, settles, mayOrder expression copy, simple, found,
            fun next made => .settled found copy made⟩
  | @settled name held value found noCopy made =>
      obtain ⟨simple, mayOrder⟩ := settles name (.inl rfl) held found
      exfalso
      cases literal : evaluator.isExpression held with
      | false =>
          rw [get?_pass_of_literal found literal, Option.some.injEq] at made
          rw [made, expression] at literal
          cases literal
      | true =>
          obtain ⟨plain, result⟩ :=
            tractable.pass_of_ordered settles (mayOrder literal noCopy) found literal
          obtain rfl := Option.some.inj (made.symm.trans result)
          rw [plain.self.2] at expression
          cases expression
  | @copied name other held value found copy _ inductionHypothesis =>
      have depends : evaluator.DependsOn index bindings name other :=
        .single ⟨held, found, mem_mentions_of_copies? copy⟩
      rcases inductionHypothesis (settles.of_dependsOn depends) expression with
        ⟨last, copyLast, dependsLast, lift⟩ | ⟨last, settlesLast, ordered, simple, start, lift⟩
      · exact .inl ⟨last, copyLast, depends.trans dependsLast,
          fun next stage => .copied found copy (lift next stage)⟩
      · exact .inr ⟨last, settlesLast, ordered, simple, start,
          fun next made => .copied found copy (lift next made)⟩

/-- What a read of a whole variable finds is a value that the variable may take, if what is stored
there is one. -/
theorem Stage.of_copies?
    {name other : String}
    {value : Node}
    (copy : evaluator.copies? index value = some other)
    (lift : ∀ next, evaluator.Stage index stored bindings other next →
      evaluator.Stage index stored bindings name next)
    {after : Variables}
    (keys : Table.keys after = Table.keys bindings)
    (stages : ∀ next, Table.get? after other = some next →
      evaluator.Stage index stored bindings other next) :
    evaluator.Stage index stored bindings name
      (evaluator.result ⟨after, index, stored⟩ value) := by
  rw [result_of_copies? copy]
  cases found : Table.get? after other with
  | some next => exact lift next (stages next found)
  | none =>
      rw [Table.get?_eq_none_iff, keys, ← Table.get?_eq_none_iff] at found
      exact lift .null (.absent found)

/-- After the first pass every variable has a value that it may take. -/
theorem Tractable.stage_pass
    (tractable : evaluator.Tractable index stored bindings)
    {name : String}
    (settles : evaluator.Settles index bindings name)
    {value : Node}
    (found : Table.get? (evaluator.pass index stored bindings) name = some value) :
    evaluator.Stage index stored bindings name value := by
  induction rank : evaluator.rank index bindings name using Nat.strong_induction_on
    generalizing name value with
  | _ _ inductionHypothesis =>
  subst rank
  have isKey : name ∈ Table.keys bindings := by
    rw [← evaluator.keys_pass index stored]
    exact Table.mem_keys_of_get?_eq_some found
  obtain ⟨held, start⟩ := Table.exists_get?_of_mem_keys isKey
  cases copy : evaluator.copies? index held with
  | none => exact .settled start copy found
  | some other =>
      have depends : evaluator.DependsOn index bindings name other :=
        .single ⟨held, start, mem_mentions_of_copies? copy⟩
      rw [get?_pass tractable.distinct isKey] at found
      cases written :
          evaluator.resolved? index stored (evaluator.seen index stored bindings name) name with
      | none =>
          rw [written, Option.none_or] at found
          exact .own found
      | some result =>
          rw [written, Option.some_or, Option.some.injEq] at found
          subst found
          obtain ⟨value, holds, -, rfl, -⟩ := resolved?_eq_some_iff.mp written
          rw [get?_seen_self, start, Option.some.injEq] at holds
          subst holds
          refine .of_copies? copy (fun next stage => .copied start copy stage)
            (keys_foldl _ bindings) fun next foundNext => ?_
          rcases get?_seen_cases evaluator index stored tractable.distinct isKey other with
            before | after
          · exact .own (before.symm.trans foundNext)
          · rw [after] at foundNext
            have isOther := Table.mem_keys_of_get?_eq_some foundNext
            rw [keys_pass] at isOther
            exact inductionHypothesis _ (rank_lt_of_dependsOn tractable.acyclic depends isOther)
              (settles.of_dependsOn depends) foundNext rfl

/-- After any number of passes every variable has a value that it may take. -/
theorem Tractable.stage_iterate_pass
    (tractable : evaluator.Tractable index stored bindings)
    (passes : Nat)
    {name : String}
    (settles : evaluator.Settles index bindings name)
    {value : Node}
    (found : Table.get? ((evaluator.pass index stored)^[passes] bindings) name = some value) :
    evaluator.Stage index stored bindings name value := by
  induction passes generalizing name value with
  | zero => exact .own found
  | succ passes samePass =>
  cases passes with
  | zero => exact tractable.stage_pass settles found
  | succ passes =>
      induction rank : evaluator.rank index bindings name using Nat.strong_induction_on
        generalizing name value with
      | _ _ sameLower =>
      subst rank
      have keys := (tractable.iterate_pass (passes + 1)).1
      rw [tractable.get?_iterate_pass_succ] at found
      cases written : evaluator.resolved? index stored (evaluator.seen index stored
          ((evaluator.pass index stored)^[passes + 1] bindings) name) name with
      | none =>
          rw [written, Option.none_or] at found
          exact samePass settles found
      | some result =>
          rw [written, Option.some_or, Option.some.injEq] at found
          subst found
          obtain ⟨held, holds, expression, rfl, -⟩ := resolved?_eq_some_iff.mp written
          rw [get?_seen_self] at holds
          -- Each variable is seen as some pass after the first has left it.
          have cases := get?_seen_cases evaluator index stored
            (tractable.distinct_iterate_pass (passes + 1)) (Table.mem_keys_of_get?_eq_some holds)
          simp only [← Function.iterate_succ_apply' (evaluator.pass index stored)] at cases
          rcases (samePass settles holds).of_isExpression tractable settles expression with
            ⟨other, copy, depends, lift⟩ | ⟨other, settlesOther, ordered, -, start, lift⟩
          · refine .of_copies? copy lift ((keys_foldl _ _).trans keys) fun next foundNext => ?_
            rcases cases other with before | after
            · exact samePass (settles.of_dependsOn depends) (before.symm.trans foundNext)
            · rw [after] at foundNext
              have isOther := (tractable.iterate_pass (passes + 2)).1 ▸
                Table.mem_keys_of_get?_eq_some foundNext
              exact sameLower _ (rank_lt_of_dependsOn tractable.acyclic depends isOther)
                (settles.of_dependsOn depends) foundNext rfl
          · refine lift _ ?_
            rw [tractable.result_of_later settlesOther ordered start expression fun middle =>
              (cases middle).elim (fun before => ⟨passes, before⟩) fun after => ⟨passes + 1, after⟩]
            exact (tractable.pass_of_ordered settlesOther ordered start expression).2

/-- When nothing is left to be written, no variable that settles holds an expression. -/
theorem Tractable.literal_of_settles
    (tractable : evaluator.Tractable index stored bindings)
    {name : String}
    (settles : evaluator.Settles index bindings name)
    {value : Node}
    (found : Table.get? ((evaluator.pass index stored)^[bindings.length] bindings) name =
      some value) :
    evaluator.isExpression value = false := by
  refine Bool.eq_false_iff.mpr fun expression => ?_
  obtain ⟨keys, traced, -⟩ := tractable.iterate_pass bindings.length
  have same := resolved?_eq_none_iff.mp (tractable.resolved?_iterate_pass name) value found
    expression
  rcases (tractable.stage_iterate_pass _ settles found).of_isExpression tractable settles
    expression with ⟨other, copy, -⟩ | ⟨other, settlesOther, ordered, simple, start, -⟩
  · have absent := tractable.absent_of_same keys traced (traced name value found).1 same other
      (mem_mentions_of_copies? copy)
    rw [← keys, ← Table.get?_eq_none_iff] at absent
    rw [result_of_copies? copy, absent] at same
    obtain ⟨entries, rfl⟩ := exists_mapping_of_isExpression expression
    cases same
  · have positive : bindings.length - 1 + 1 = bindings.length :=
      Nat.sub_add_cancel (List.length_pos_of_mem (Table.mem_of_get?_eq_some start))
    rw [tractable.result_of_later settlesOther ordered start expression fun middle =>
      ⟨bindings.length - 1, by rw [positive]⟩] at same
    have plain := (tractable.pass_of_ordered settlesOther ordered start expression).1
    rw [not_same_of_simple plain expression simple] at same
    cases same

/-- A value that a variable may take and that is no expression is `null`, what the first pass makes of
the variable, or such a value of the variable that it reads as a whole. -/
theorem Stage.of_literal
    {name : String}
    {value : Node}
    (stage : evaluator.Stage index stored bindings name value)
    (literal : evaluator.isExpression value = false) :
    (Table.get? bindings name = none ∧ value = .null) ∨
    (∃ held, Table.get? bindings name = some held ∧ evaluator.copies? index held = none ∧
      Table.get? (evaluator.pass index stored bindings) name = some value) ∨
    ∃ held other, Table.get? bindings name = some held ∧
      evaluator.copies? index held = some other ∧
      evaluator.Stage index stored bindings other value := by
  cases stage with
  | absent missing => exact .inl ⟨missing, rfl⟩
  | own found =>
      exact .inr (.inl ⟨value, found, copies?_of_literal literal,
        get?_pass_of_literal found literal⟩)
  | settled found noCopy made => exact .inr (.inl ⟨_, found, noCopy, made⟩)
  | copied found copy stage => exact .inr (.inr ⟨_, _, found, copy, stage⟩)

/-- Where a variable reads no other as a whole, what the first pass makes of it is the only value that
it may take and that is no expression. -/
theorem Stage.eq_of_made
    {name : String}
    {held value other : Node}
    (found : Table.get? bindings name = some held)
    (noCopy : evaluator.copies? index held = none)
    (made : Table.get? (evaluator.pass index stored bindings) name = some value)
    (stage : evaluator.Stage index stored bindings name other)
    (literal : evaluator.isExpression other = false) :
    value = other := by
  rcases stage.of_literal literal with
    ⟨missing, -⟩ | ⟨held', -, -, madeOther⟩ | ⟨held', source, found', copy, -⟩
  · rw [found] at missing
    cases missing
  · exact Option.some.inj (made.symm.trans madeOther)
  · obtain rfl := Option.some.inj (found.symm.trans found')
    rw [noCopy] at copy
    cases copy

/-- Among the values that a variable may take, only one is no expression. -/
theorem Stage.eq_of_literal
    {name : String}
    {value other : Node}
    (stage : evaluator.Stage index stored bindings name value)
    (stageOther : evaluator.Stage index stored bindings name other)
    (literal : evaluator.isExpression value = false)
    (literalOther : evaluator.isExpression other = false) :
    value = other := by
  induction stage with
  | absent missing =>
      rcases stageOther.of_literal literalOther with
        ⟨-, isNull⟩ | ⟨held, found, -⟩ | ⟨held, _, found, -⟩
      · exact isNull.symm
      · rw [missing] at found
        cases found
      · rw [missing] at found
        cases found
  | own start =>
      exact stageOther.eq_of_made start (copies?_of_literal literal)
        (get?_pass_of_literal start literal) literalOther
  | settled start noCopy made => exact stageOther.eq_of_made start noCopy made literalOther
  | @copied name source held value start copy _ inductionHypothesis =>
      rcases stageOther.of_literal literalOther with
        ⟨missing, -⟩ | ⟨held', found, noCopy, -⟩ | ⟨held', source', found, copy', stageSource⟩
      · rw [start] at missing
        cases missing
      · obtain rfl := Option.some.inj (start.symm.trans found)
        rw [noCopy] at copy
        cases copy
      · obtain rfl := Option.some.inj (start.symm.trans found)
        obtain rfl := Option.some.inj (copy.symm.trans copy')
        exact inductionHypothesis stageSource literal

/-! ## Other orders -/

/-- The values that a variable may take are the same in every order in which it settles. -/
theorem Tractable.stage_perm
    (tractable : evaluator.Tractable index stored bindings)
    (perm : bindings.Perm others)
    {name : String}
    {value : Node}
    (stage : evaluator.Stage index stored bindings name value)
    (settles : evaluator.Settles index bindings name)
    (settlesOthers : evaluator.Settles index others name) :
    evaluator.Stage index stored others name value := by
  have lookUps := Table.get?_perm tractable.distinct perm
  induction stage with
  | absent missing => exact .absent (by rw [lookUps, missing])
  | own found => exact .own (by rw [lookUps, found])
  | @settled name held value found noCopy made =>
      have foundOthers : Table.get? others name = some held := by rw [lookUps, found]
      refine .settled foundOthers noCopy ?_
      cases expression : evaluator.isExpression held with
      | false =>
          rw [get?_pass_of_literal found expression] at made
          rw [get?_pass_of_literal foundOthers expression, made]
      | true =>
          have ordered := (settles name (.inl rfl) held found).2 expression noCopy
          have orderedOthers := (settlesOthers name (.inl rfl) held foundOthers).2 expression noCopy
          exact (get?_iterate_pass_of_ordered tractable perm ordered orderedOthers 1).symm.trans made
  | @copied name source held value found copy _ inductionHypothesis =>
      have depends : evaluator.DependsOn index bindings name source :=
        .single ⟨held, found, mem_mentions_of_copies? copy⟩
      have dependsOthers : evaluator.DependsOn index others name source :=
        dependsOn_congr lookUps ▸ depends
      exact .copied (by rw [lookUps, found]) copy (inductionHypothesis
        (settles.of_dependsOn depends) (settlesOthers.of_dependsOn dependsOthers))

/-- A variable that settles in two orders of the same variables ends with the same value in both. -/
theorem Tractable.get?_iterate_pass_perm
    (tractable : evaluator.Tractable index stored bindings)
    (perm : bindings.Perm others)
    {name : String}
    (settles : evaluator.Settles index bindings name)
    (settlesOthers : evaluator.Settles index others name) :
    Table.get? ((evaluator.pass index stored)^[bindings.length] bindings) name =
      Table.get? ((evaluator.pass index stored)^[others.length] others) name := by
  have tractableOthers := tractable.perm perm
  cases found : Table.get? ((evaluator.pass index stored)^[bindings.length] bindings) name with
  | none =>
      have absent := (Table.get?_eq_none_iff _ _).mp found
      rw [(tractable.iterate_pass _).1] at absent
      refine ((Table.get?_eq_none_iff _ _).mpr fun isKey => absent ?_).symm
      rw [(tractableOthers.iterate_pass _).1] at isKey
      exact (perm.map Prod.fst).symm.subset isKey
  | some value =>
      have isKey := (tractable.iterate_pass _).1 ▸ Table.mem_keys_of_get?_eq_some found
      have isKeyOthers : name ∈ Table.keys others := (perm.map Prod.fst).subset isKey
      obtain ⟨other, foundOther⟩ := Table.exists_get?_of_mem_keys
        ((tractableOthers.iterate_pass others.length).1.symm ▸ isKeyOthers)
      rw [foundOther]
      have stage := tractable.stage_perm perm (tractable.stage_iterate_pass _ settles found) settles
        settlesOthers
      have stageOther := tractableOthers.stage_iterate_pass _ settlesOthers foundOther
      exact congrArg some (stage.eq_of_literal stageOther
        (tractable.literal_of_settles settles found)
        (tractableOthers.literal_of_settles settlesOthers foundOther))

end Evaluator
end Storyboard
