import Mathlib.Data.Finset.Card
import Mathlib.Data.Finset.Dedup
import Storyboard.Proofs.Assignment
import Storyboard.Proofs.Expression.Reads

/-!
# The cache of paths makes no difference

An evaluator is asked to evaluate, to read, to write, to parse and to forget, in any order.
Each of these has the outcome, and leaves the variables, that it would have if every path were
parsed afresh.  What is remembered at any time are the parses of the paths that could be parsed
since the evaluator last forgot, each once.
-/

namespace Storyboard

/-- What an evaluator is asked for. -/
inductive Errand where
  /-- A node is evaluated, in a loop row or outside of all and on sight of a store. -/
  | evaluate (index : Option Nat) (stored : List (String × Node)) (node : Node)
  /-- The value at a path given as text is read. -/
  | read (index : Option Nat) (path : String)
  /-- A value is written at a path given as text. -/
  | assign (index : Option Nat) (path : String) (value : Node)
  /-- A path is parsed as it stands. -/
  | parse (path : String)
  /-- All parsed paths are forgotten. -/
  | clear
  /-- A variable is set or removed, without a path. -/
  | update (update : Update)

/-- What comes of an errand. -/
inductive Errand.Outcome where
  /-- A value was found. -/
  | value (node : Node)
  /-- A write succeeded or failed. -/
  | written (result : Except PathError Unit)
  /-- A parse succeeded or failed. -/
  | parsed (result : Except PathError Path)
  /-- There is nothing to tell. -/
  | done

namespace Evaluator

/-! ## Errands through the cache and without it -/

/-- Carry out an errand through the cache. -/
def carryOut (evaluator : Evaluator) (bound : Nat) :
    Errand → Context → Path.Cache → Option (Errand.Outcome × Context × Path.Cache)
  | .evaluate index stored node, context, cache =>
      let evaluated := evaluator.evaluate ⟨context.bindings, index, stored⟩ node cache
      some (.value evaluated.1, context, evaluated.2)
  | .read index path, context, cache =>
      let found := evaluator.read ⟨context.bindings, index, []⟩ path cache
      some (.value found.1, context, found.2)
  | .assign index path value, context, cache =>
      (evaluator.assign bound index path value context cache).map
        fun (result, context, cache) => (.written result, context, cache)
  | .parse path, context, cache =>
      let parsed := cache.parse path
      some (.parsed parsed.1, context, parsed.2)
  | .clear, context, _ => some (.done, context, [])
  | .update update, context, cache =>
      (context.update bound update).map fun context => (.done, context, cache)

/-- Evaluate a node down to a number of levels, with every path parsed afresh. -/
def evaluateAfresh (evaluator : Evaluator) (scope : Scope) : Nat → Node → Node
  | 0, _ => .null
  | levels + 1, node =>
      match evaluator.classify node with
      | .null => .null
      | .variable path => evaluator.look scope path
      | .operator name input =>
          match Table.get? evaluator.operators name with
          | some operator => operator scope (evaluateAfresh evaluator scope levels input)
          | none => .null
      | .object entries => .mapping (mapValues (evaluateAfresh evaluator scope levels) entries)
      | .array items => .sequence (items.map (evaluateAfresh evaluator scope levels))
      | .literal node => node

/-- Write a value at a path given as text, with the path parsed afresh. -/
def assignAfresh (evaluator : Evaluator) (bound : Nat) (index : Option Nat) (path : String)
    (value : Node) (context : Context) : Option (Except PathError Unit × Context) :=
  match Path.parse (evaluator.substitute index path) with
  | .ok components => context.write bound components value
  | .error error => some (.error error, context)

/-- Carry out an errand with every path parsed afresh. -/
def carryOutAfresh (evaluator : Evaluator) (bound : Nat) :
    Errand → Context → Option (Errand.Outcome × Context)
  | .evaluate index stored node, context =>
      some (.value (evaluator.evaluateAfresh ⟨context.bindings, index, stored⟩ levelLimit node),
        context)
  | .read index path, context =>
      some (.value (evaluator.look ⟨context.bindings, index, []⟩ path), context)
  | .assign index path value, context =>
      (evaluator.assignAfresh bound index path value context).map
        fun (result, context) => (.written result, context)
  | .parse path, context => some (.parsed (Path.parse path), context)
  | .clear, context => some (.done, context)
  | .update update, context =>
      (context.update bound update).map fun context => (.done, context)

/-- Carry out errands one after another.  Of each, the outcome and the context that it leaves are
told. -/
def carryOutAll (evaluator : Evaluator) (bound : Nat) :
    List Errand → Context → Path.Cache → Option (List (Errand.Outcome × Context) × Path.Cache)
  | [], _, cache => some ([], cache)
  | errand :: rest, context, cache => do
      let (outcome, context, cache) ← evaluator.carryOut bound errand context cache
      let (others, cache) ← carryOutAll evaluator bound rest context cache
      return ((outcome, context) :: others, cache)

/-- Carry out errands one after another, with every path parsed afresh. -/
def carryOutAllAfresh (evaluator : Evaluator) (bound : Nat) :
    List Errand → Context → Option (List (Errand.Outcome × Context))
  | [], _ => some []
  | errand :: rest, context => do
      let (outcome, context) ← evaluator.carryOutAfresh bound errand context
      let others ← carryOutAllAfresh evaluator bound rest context
      return (outcome, context) :: others

/-- The paths that are to be parsed for an errand, with the loop position in the place of the
placeholder. -/
def errandPaths (evaluator : Evaluator) : Errand → List String
  | .evaluate index _ node => (evaluator.reads node).map (evaluator.substitute index)
  | .read index path => [evaluator.substitute index path]
  | .assign index path _ => [evaluator.substitute index path]
  | .parse path => [path]
  | .clear => []
  | .update _ => []

/-- The paths that were to be parsed since the evaluator last forgot, if some were before an
errand. -/
def pathsUpon (evaluator : Evaluator) (paths : List String) : Errand → List String
  | .clear => []
  | errand => paths ++ evaluator.errandPaths errand

/-- The paths that were to be parsed for errands since the evaluator last forgot. -/
def pathsOf (evaluator : Evaluator) (errands : List Errand) : List String :=
  errands.foldl evaluator.pathsUpon []

end Evaluator

namespace Path
namespace Cache

/-! ## What is remembered of parses -/

theorem Faithful.parseAll
    {cache : Cache}
    (faithful : cache.Faithful)
    (paths : List String) :
    (cache.parseAll paths).Faithful := by
  induction paths generalizing cache with
  | nil => exact faithful
  | cons path rest inductionHypothesis => exact inductionHypothesis (faithful.snd_parse path)

/-- A path is remembered after a parse if it was before, or if it is the one and can be parsed. -/
theorem mem_keys_snd_parse
    {cache : Cache}
    {path key : String} :
    key ∈ Table.keys (cache.parse path).2 ↔
      key ∈ Table.keys cache ∨ key = path ∧ (Path.parse path).isOk = true := by
  cases found : Table.get? cache path with
  | some components =>
      have present := Table.mem_keys_of_get?_eq_some found
      simp only [Cache.parse, found]
      exact ⟨.inl, fun known => known.elim id fun both => both.1 ▸ present⟩
  | none =>
      have absent : Table.contains cache path = false := by simp [Table.contains, found]
      cases parsed : Path.parse path with
      | error error => simp [Cache.parse, found, parsed, Except.isOk, Except.toBool]
      | ok components =>
          simp [Cache.parse, found, parsed, Table.keys_insert, absent, Except.isOk, Except.toBool]

theorem distinct_snd_parse
    {cache : Cache}
    (distinct : Table.Distinct cache)
    (path : String) :
    Table.Distinct (cache.parse path).2 := by
  unfold Cache.parse
  split
  · exact distinct
  · split
    · exact distinct.insert path _
    · exact distinct

theorem distinct_parseAll
    {cache : Cache}
    (distinct : Table.Distinct cache)
    (paths : List String) :
    Table.Distinct (cache.parseAll paths) := by
  induction paths generalizing cache with
  | nil => exact distinct
  | cons path rest inductionHypothesis => exact inductionHypothesis (distinct_snd_parse distinct path)

theorem distinct_parseAll_nil (paths : List String) : Table.Distinct (parseAll [] paths) := by
  have empty : Table.Distinct ([] : Cache) := List.nodup_nil
  exact distinct_parseAll empty paths

/-- The paths that are remembered after parses are those that were before and those among the parsed
ones that can be parsed. -/
theorem mem_keys_parseAll
    {cache : Cache}
    {paths : List String}
    {key : String} :
    key ∈ Table.keys (cache.parseAll paths) ↔
      key ∈ Table.keys cache ∨ key ∈ paths ∧ (Path.parse key).isOk = true := by
  induction paths generalizing cache with
  | nil => simp [parseAll]
  | cons path rest inductionHypothesis =>
      have step : cache.parseAll (path :: rest) = (cache.parse path).2.parseAll rest := rfl
      rw [step, inductionHypothesis, mem_keys_snd_parse, List.mem_cons, or_assoc, or_and_right]
      have same : key = path ∧ (Path.parse path).isOk = true ↔
          key = path ∧ (Path.parse key).isOk = true :=
        and_congr_right fun equal => by rw [equal]
      rw [same]

/-- From nothing, parses come to as many entries as there are different paths among them that can be
parsed. -/
theorem length_parseAll_nil (paths : List String) :
    (parseAll [] paths).length =
      (paths.filter fun path => (Path.parse path).isOk).toFinset.card := by
  have distinct : (Table.keys (parseAll [] paths)).Nodup := distinct_parseAll_nil paths
  have keys : (Table.keys (parseAll [] paths)).toFinset =
      (paths.filter fun path => (Path.parse path).isOk).toFinset := by
    ext key
    rw [List.mem_toFinset, List.mem_toFinset, mem_keys_parseAll, List.mem_filter]
    exact or_iff_right List.not_mem_nil
  rw [← keys, List.toFinset_card_of_nodup distinct, Table.keys, List.length_map]

end Cache
end Path

namespace Evaluator

/-! ## No errand notices the cache -/

theorem evaluateAfresh_eq_meaningTo
    (evaluator : Evaluator)
    (scope : Scope)
    (levels : Nat)
    (node : Node) :
    evaluator.evaluateAfresh scope levels node = evaluator.meaningTo scope levels node := by
  induction levels generalizing node with
  | zero => rfl
  | succ levels inductionHypothesis =>
      have same : evaluator.evaluateAfresh scope levels = evaluator.meaningTo scope levels :=
        funext inductionHypothesis
      rw [meaningTo_succ, ← same]
      rfl

/-- What an errand leaves in the cache. -/
def rememberUpon (evaluator : Evaluator) (cache : Path.Cache) : Errand → Path.Cache
  | .clear => []
  | errand => cache.parseAll (evaluator.errandPaths errand)

theorem assign_eq_assignAfresh
    (evaluator : Evaluator)
    (bound : Nat)
    (index : Option Nat)
    (path : String)
    (value : Node)
    (context : Context)
    {cache : Path.Cache}
    (faithful : cache.Faithful) :
    evaluator.assign bound index path value context cache =
      (evaluator.assignAfresh bound index path value context).map fun (result, context) =>
        (result, context, (cache.parse (evaluator.substitute index path)).2) := by
  have outcome := faithful.fst_parse (evaluator.substitute index path)
  unfold assign assignAfresh
  rw [← outcome]
  cases cache.parse (evaluator.substitute index path) with
  | mk result remembered => cases result <;> rfl

/-- An errand through a faithful cache comes to what it comes to where every path is parsed afresh,
and leaves the parses of its paths in the cache. -/
theorem carryOut_eq_carryOutAfresh
    (evaluator : Evaluator)
    (bound : Nat)
    (errand : Errand)
    (context : Context)
    {cache : Path.Cache}
    (faithful : cache.Faithful) :
    evaluator.carryOut bound errand context cache =
      (evaluator.carryOutAfresh bound errand context).map fun (outcome, context) =>
        (outcome, context, evaluator.rememberUpon cache errand) := by
  cases errand with
  | evaluate index stored node =>
      have value :=
        (evaluator.evaluate_of_faithful ⟨context.bindings, index, stored⟩ node faithful).1
      have left : (evaluator.evaluate ⟨context.bindings, index, stored⟩ node cache).2 =
          evaluator.rememberUpon cache (.evaluate index stored node) :=
        evaluator.snd_evaluateTo ⟨context.bindings, index, stored⟩ levelLimit node cache
      rw [carryOut, carryOutAfresh, evaluateAfresh_eq_meaningTo, Option.map_some, value, left]
      rfl
  | read index path =>
      have value := (read_spec id (fun path faithful => faithful.snd_parse path) evaluator
        ⟨context.bindings, index, []⟩ path faithful).1
      have left : (evaluator.read ⟨context.bindings, index, []⟩ path cache).2 =
          evaluator.rememberUpon cache (.read index path) :=
        evaluator.snd_read ⟨context.bindings, index, []⟩ path cache
      rw [carryOut, carryOutAfresh, Option.map_some, value, left]
  | assign index path value =>
      rw [carryOut, carryOutAfresh, evaluator.assign_eq_assignAfresh bound index path value context
        faithful, Option.map_map, Option.map_map]
      rfl
  | parse path =>
      rw [carryOut, carryOutAfresh, Option.map_some, faithful.fst_parse path]
      rfl
  | clear => rfl
  | update update =>
      rw [carryOut, carryOutAfresh, Option.map_map]
      rfl

theorem faithful_rememberUpon
    (evaluator : Evaluator)
    {cache : Path.Cache}
    (faithful : cache.Faithful)
    (errand : Errand) :
    (evaluator.rememberUpon cache errand).Faithful := by
  cases errand with
  | clear => exact Path.Cache.faithful_nil
  | _ => exact faithful.parseAll _

/-- Errands through a faithful cache come to what they come to where every path is parsed afresh, by
induction on them: every errand leaves a faithful cache to the next one. -/
theorem carryOutAll_eq_carryOutAllAfresh
    (evaluator : Evaluator)
    (bound : Nat)
    (errands : List Errand)
    (context : Context)
    {cache : Path.Cache}
    (faithful : cache.Faithful) :
    evaluator.carryOutAll bound errands context cache =
      (evaluator.carryOutAllAfresh bound errands context).map fun outcomes =>
        (outcomes, errands.foldl evaluator.rememberUpon cache) := by
  induction errands generalizing context cache with
  | nil => rfl
  | cons errand rest inductionHypothesis =>
      have first := evaluator.carryOut_eq_carryOutAfresh bound errand context faithful
      rw [carryOutAll, carryOutAllAfresh, first]
      cases evaluator.carryOutAfresh bound errand context with
      | none => rfl
      | some taken =>
          obtain ⟨outcome, after⟩ := taken
          have later := inductionHypothesis after (evaluator.faithful_rememberUpon faithful errand)
          simp only [Option.map_some, Option.bind_eq_bind, Option.bind_some, later]
          cases evaluator.carryOutAllAfresh bound rest after <;> rfl

/-- What errands leave in an empty cache are the parses of their paths since it was last
cleared. -/
theorem foldl_rememberUpon
    (evaluator : Evaluator)
    (errands : List Errand) :
    errands.foldl evaluator.rememberUpon [] =
      Path.Cache.parseAll [] (evaluator.pathsOf errands) := by
  suffices general : ∀ paths : List String,
      errands.foldl evaluator.rememberUpon (Path.Cache.parseAll [] paths) =
        Path.Cache.parseAll [] (errands.foldl evaluator.pathsUpon paths) from general []
  induction errands with
  | nil => exact fun _ => rfl
  | cons errand rest inductionHypothesis =>
      intro paths
      have step : evaluator.rememberUpon (Path.Cache.parseAll [] paths) errand =
          Path.Cache.parseAll [] (evaluator.pathsUpon paths errand) := by
        cases errand with
        | clear => rfl
        | _ => exact (Path.Cache.parseAll_append [] paths _).symm
      rw [List.foldl_cons, step, inductionHypothesis, List.foldl_cons]

/--
Whatever an evaluator is asked for from the start, every outcome and every context that is left is
the same as if each path were parsed afresh.  At any time each path that is remembered is remembered
with its parse, so that none is remembered that cannot be parsed, and there are as many as there are
different paths that were parsed with success since the cache was last cleared.
-/
theorem errands_ignore_cache
    (evaluator : Evaluator)
    (bound : Nat)
    (errands : List Errand)
    (context : Context) :
    (evaluator.carryOutAll bound errands context []).map Prod.fst =
        evaluator.carryOutAllAfresh bound errands context ∧
      ∀ outcomes cache, evaluator.carryOutAll bound errands context [] = some (outcomes, cache) →
        (∀ entry ∈ cache, Path.parse entry.1 = .ok entry.2) ∧
          cache.length =
            ((evaluator.pathsOf errands).filter fun path => (Path.parse path).isOk).toFinset.card := by
  have simulated :=
    evaluator.carryOutAll_eq_carryOutAllAfresh bound errands context Path.Cache.faithful_nil
  constructor
  · rw [simulated, Option.map_map]
    exact Option.map_id'
  · intro outcomes cache carriedOut
    rw [simulated, foldl_rememberUpon] at carriedOut
    obtain ⟨_, -, same⟩ := Option.map_eq_some_iff.mp carriedOut
    obtain ⟨-, rfl⟩ := Prod.mk.inj same
    refine ⟨fun entry member => ?_, Path.Cache.length_parseAll_nil _⟩
    have distinct := Path.Cache.distinct_parseAll_nil (evaluator.pathsOf errands)
    exact Path.Cache.faithful_nil.parseAll _ entry.1 entry.2
      (Table.get?_eq_some_of_mem distinct member)

/-- A row is read, a second row is written, and a list reads the second row twice.  Of a path that
cannot be parsed nothing is remembered, nor of one that was parsed before the cache was cleared. -/
theorem errands_ignore_cache_of_two_rows :
    let evaluator : Evaluator := ⟨Operator.builtin, "$index"⟩
    let row : Node := .mapping [("var", .string "rows[$index]")]
    let context : Context := { bindings := [("rows", .sequence [.string "first"])] }
    let errands : List Errand := [.parse "title", .clear, .read (some 0) "rows[$index]",
      .parse "rows[", .assign (some 1) "rows[$index]" (.string "second"),
      .evaluate (some 1) [] (.sequence [row, row])]
    ∃ outcomes cache, evaluator.carryOutAll 0 errands context [] = some (outcomes, cache) ∧
      (∀ entry ∈ cache, Path.parse entry.1 = .ok entry.2) ∧ cache.length = 2 := by
  intro evaluator row context errands
  have ends : (evaluator.carryOutAll 0 errands context []).isSome = true := by decide +kernel
  obtain ⟨⟨outcomes, cache⟩, carriedOut⟩ := Option.isSome_iff_exists.mp ends
  obtain ⟨remembered, size⟩ :=
    (errands_ignore_cache evaluator 0 errands context).2 outcomes cache carriedOut
  exact ⟨outcomes, cache, carriedOut, remembered, size.trans (by decide +kernel)⟩

end Evaluator
end Storyboard
