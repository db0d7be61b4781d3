import Storyboard.Proofs.Expression.References
import Storyboard.Proofs.Path.RoundTrip

/-!
# The reads that an evaluation performs

An evaluation performs the reads that it comes to on the levels that are evaluated: of the
application of an operator it looks at the first value alone, and what a read finds it does
not evaluate.  The paths of these reads are the ones that pass through the cache.  The
result depends on the values of the variables that they start from and on no others.
-/

namespace Storyboard

/-- What a cache remembers after paths were parsed through it one after another. -/
def Path.Cache.parseAll (cache : Path.Cache) (paths : List String) : Path.Cache :=
  paths.foldl (fun cache path => (cache.parse path).2) cache

theorem Path.Cache.parseAll_append
    (cache : Path.Cache)
    (paths others : List String) :
    cache.parseAll (paths ++ others) = (cache.parseAll paths).parseAll others :=
  List.foldl_append

/-- The form of an expression with the path of a read and the nodes inside replaced. -/
def Expression.replace (change : String → String) (inner : Node → Node) : Expression → Expression
  | .variable path => .variable (change path)
  | .operator name input => .operator name (inner input)
  | .object entries => .object (Evaluator.mapValues inner entries)
  | .array items => .array (items.map inner)
  | other => other

namespace Evaluator

/-- The paths of the reads that an evaluation down to a number of levels performs, in order. -/
def readsTo (evaluator : Evaluator) : Nat → Node → List String
  | 0, _ => []
  | levels + 1, node =>
      match evaluator.classify node with
      | .variable path => [path]
      | .operator _ input => readsTo evaluator levels input
      | .object entries => entries.flatMap fun entry => readsTo evaluator levels entry.2
      | .array items => items.flatMap (readsTo evaluator levels)
      | _ => []

/-- The paths of the reads that an evaluation performs, in order. -/
def reads (evaluator : Evaluator) (node : Node) : List String :=
  evaluator.readsTo levelLimit node

/-- A node with the path replaced of each read that an evaluation down to a number of levels
performs. -/
def withPathsTo (evaluator : Evaluator) (change : String → String) : Nat → Node → Node
  | 0, node => node
  | levels + 1, .sequence items => .sequence (items.map (withPathsTo evaluator change levels))
  | levels + 1, .mapping entries =>
      match readPath? entries with
      | some path => .mapping [(variableKey, .string (change path))]
      | none =>
          match entries with
          | [] => .mapping []
          | (name, input) :: rest =>
              .mapping ((name, withPathsTo evaluator change levels input) ::
                if Table.contains evaluator.operators name then rest
                else mapValues (withPathsTo evaluator change levels) rest)
  | _ + 1, node => node

/-- A node with the path replaced of each read that an evaluation performs. -/
def withPaths (evaluator : Evaluator) (change : String → String) (node : Node) : Node :=
  evaluator.withPathsTo change levelLimit node

/-! ## The meaning by the form of the expression -/

/-- The meaning of a node down to a level follows the form in which it is evaluated. -/
theorem meaningTo_succ
    (evaluator : Evaluator)
    (scope : Scope)
    (levels : Nat)
    (node : Node) :
    evaluator.meaningTo scope (levels + 1) node =
      match evaluator.classify node with
      | .null => .null
      | .variable path => evaluator.look scope path
      | .operator name input =>
          match Table.get? evaluator.operators name with
          | some operator => operator scope (evaluator.meaningTo scope levels input)
          | none => .null
      | .object entries => .mapping (mapValues (evaluator.meaningTo scope levels) entries)
      | .array items => .sequence (items.map (evaluator.meaningTo scope levels))
      | .literal node => node := by
  have each : ∀ node {cache : Path.Cache}, cache.Faithful →
      (evaluator.evaluateTo scope levels node cache).1 = evaluator.meaningTo scope levels node ∧
        (evaluator.evaluateTo scope levels node cache).2.Faithful :=
    fun node _ faithful =>
      evaluateTo_spec id (fun path faithful => faithful.snd_parse path) evaluator scope levels node
        faithful
  have value := (evaluateTo_spec id (fun path faithful => faithful.snd_parse path) evaluator scope
    (levels + 1) node Path.Cache.faithful_nil).1
  rw [meaningTo, ← value, evaluateTo]
  cases evaluator.classify node with
  | null | literal node => rfl
  | «variable» path =>
      exact (read_spec id (fun path faithful => faithful.snd_parse path) evaluator scope path
        Path.Cache.faithful_nil).1
  | operator name input =>
      dsimp only
      rw [(each input Path.Cache.faithful_nil).1]
      cases Table.get? evaluator.operators name <;> rfl
  | array items =>
      exact congrArg Node.sequence (eachItem_spec each items Path.Cache.faithful_nil).1
  | object entries =>
      exact congrArg Node.mapping (eachEntry_spec each entries Path.Cache.faithful_nil).1

/-! ## Nodes with other paths -/

section Paths

variable {evaluator : Evaluator} {change : String → String}

/-- No text comes from replacing paths, but the texts that were there. -/
theorem eq_string_of_withPathsTo_eq_string
    {levels : Nat}
    {node : Node}
    {text : String}
    (same : evaluator.withPathsTo change levels node = .string text) :
    node = .string text := by
  cases levels with
  | zero => exact same
  | succ levels =>
      cases node with
      | mapping entries =>
          simp only [withPathsTo] at same
          split at same
          · cases same
          · split at same <;> cases same
      | sequence items => cases same
      | _ => exact same

/-- A node with other paths is evaluated in the form of the node, with the path of a read or the
nodes inside replaced. -/
theorem classify_withPathsTo
    (levels : Nat)
    (node : Node) :
    evaluator.classify (evaluator.withPathsTo change (levels + 1) node) =
      (evaluator.classify node).replace change (evaluator.withPathsTo change levels) := by
  cases node with
  | mapping entries =>
      rw [classify_mapping]
      cases reads : readPath? entries with
      | some path =>
          have isRead : readPath? [(variableKey, .string (change path))] = some (change path) :=
            (readPath?_eq_some_iff _ _).mpr rfl
          simp only [withPathsTo, reads, classify_mapping, isRead]
          rfl
      | none =>
          cases entries with
          | nil => rfl
          | cons entry rest =>
              obtain ⟨name, input⟩ := entry
              have stillNone : ∀ rest', (rest' = [] → rest = []) →
                  readPath? ((name, evaluator.withPathsTo change levels input) :: rest') = none :=
                fun _ single =>
                  readPath?_cons_eq_none reads (fun _ => eq_string_of_withPathsTo_eq_string) single
              cases known : Table.contains evaluator.operators name with
              | true =>
                  simp only [withPathsTo, reads, known, if_true, classify_mapping,
                    stillNone rest id, classifyEntries]
                  rfl
              | false =>
                  simp only [withPathsTo, reads, known, if_false, Bool.false_eq_true,
                    classify_mapping, stillNone (mapValues _ rest) (by simp [mapValues]),
                    classifyEntries]
                  rfl
  | _ => rfl

/-- Every read of a node with other paths is a read of the node. -/
theorem readsTo_withPathsTo
    (levels : Nat)
    (node : Node) :
    evaluator.readsTo levels (evaluator.withPathsTo change levels node) =
      (evaluator.readsTo levels node).map change := by
  induction levels generalizing node with
  | zero => rfl
  | succ levels inductionHypothesis =>
      rw [readsTo, readsTo, classify_withPathsTo]
      cases evaluator.classify node with
      | operator name input => exact inductionHypothesis input
      | object entries =>
          simp only [Expression.replace, mapValues, List.flatMap_map, List.map_flatMap,
            inductionHypothesis]
      | array items =>
          simp only [Expression.replace, List.flatMap_map, List.map_flatMap, inductionHypothesis]
      | _ => rfl

/-- The meaning of a node is that of the node with other paths where these find the same. -/
theorem meaningTo_withPathsTo
    {scope other : Scope}
    (operators : ∀ name operator, Table.get? evaluator.operators name = some operator →
      ∀ input, operator scope input = operator other input)
    (levels : Nat)
    {node : Node}
    (finds : ∀ path ∈ evaluator.readsTo levels node,
      evaluator.look scope path = evaluator.look other (change path)) :
    evaluator.meaningTo scope levels node =
      evaluator.meaningTo other levels (evaluator.withPathsTo change levels node) := by
  induction levels generalizing node with
  | zero => rfl
  | succ levels inductionHypothesis =>
      rw [meaningTo_succ, meaningTo_succ, classify_withPathsTo]
      rw [readsTo] at finds
      cases form : evaluator.classify node with
      | null | literal node => rfl
      | «variable» path =>
          rw [form] at finds
          exact finds path (List.mem_singleton_self path)
      | operator name input =>
          rw [form] at finds
          dsimp only [Expression.replace]
          rw [inductionHypothesis finds]
          cases known : Table.get? evaluator.operators name with
          | none => rfl
          | some operator => exact operators name operator known _
      | object entries =>
          rw [form] at finds
          dsimp only [Expression.replace]
          rw [mapValues_mapValues]
          refine congrArg Node.mapping (List.map_congr_left fun entry member => ?_)
          rw [inductionHypothesis fun path isRead =>
            finds path (List.mem_flatMap.mpr ⟨entry, member, isRead⟩)]
      | array items =>
          rw [form] at finds
          dsimp only [Expression.replace]
          rw [List.map_map]
          refine congrArg Node.sequence (List.map_congr_left fun item member => ?_)
          exact inductionHypothesis fun path isRead =>
            finds path (List.mem_flatMap.mpr ⟨item, member, isRead⟩)

/-- A node stays as it is where the paths of its reads do. -/
theorem withPathsTo_of_fixed
    {levels : Nat}
    {node : Node}
    (fixed : ∀ path ∈ evaluator.readsTo levels node, change path = path) :
    evaluator.withPathsTo change levels node = node := by
  induction levels generalizing node with
  | zero => rfl
  | succ levels inductionHypothesis =>
      cases node with
      | sequence items =>
          have each : ∀ item ∈ items, evaluator.withPathsTo change levels item = item :=
            fun item member => inductionHypothesis fun path isRead =>
              fixed path (List.mem_flatMap.mpr ⟨item, member, isRead⟩)
          rw [withPathsTo, List.map_congr_left each, List.map_id']
      | mapping entries =>
          rw [readsTo, classify_mapping] at fixed
          cases reads : readPath? entries with
          | some path =>
              rw [reads] at fixed
              have same := fixed path (List.mem_singleton_self path)
              simp only [withPathsTo, reads, same]
              rw [(readPath?_eq_some_iff entries path).mp reads]
          | none =>
              cases entries with
              | nil => rfl
              | cons entry rest =>
                  obtain ⟨name, input⟩ := entry
                  simp only [reads, classifyEntries] at fixed
                  cases known : Table.contains evaluator.operators name with
                  | true =>
                      rw [known] at fixed
                      simp only [withPathsTo, reads, known, if_true, inductionHypothesis fixed]
                  | false =>
                      rw [known] at fixed
                      have each : ∀ entry ∈ (name, input) :: rest,
                          evaluator.withPathsTo change levels entry.2 = entry.2 :=
                        fun entry member => inductionHypothesis fun path isRead =>
                          fixed path (List.mem_flatMap.mpr ⟨entry, member, isRead⟩)
                      have kept := mapValues_of_fixed each
                      rw [mapValues_cons] at kept
                      simp only [withPathsTo, reads, known, Bool.false_eq_true, if_false, kept]
      | _ => rfl

theorem withPaths_of_fixed
    {node : Node}
    (fixed : ∀ path ∈ evaluator.reads node, change path = path) :
    evaluator.withPaths change node = node :=
  withPathsTo_of_fixed fixed

end Paths

/-! ## What passes through the cache -/

section Cache

theorem snd_read
    (evaluator : Evaluator)
    (scope : Scope)
    (path : String)
    (cache : Path.Cache) :
    (evaluator.read scope path cache).2 =
      (cache.parse (evaluator.substitute scope.index path)).2 := by
  unfold read
  cases cache.parse (evaluator.substitute scope.index path) with
  | mk result remembered => cases result <;> rfl

variable {evaluate : Node → Path.Cache → Node × Path.Cache} {paths : Node → List String}
  (remembers : ∀ node (cache : Path.Cache), (evaluate node cache).2 = cache.parseAll (paths node))

include remembers

theorem snd_eachItem
    (items : List Node)
    (cache : Path.Cache) :
    (eachItem evaluate items cache).2 = cache.parseAll (items.flatMap paths) := by
  induction items generalizing cache with
  | nil => rfl
  | cons item rest inductionHypothesis =>
      rw [List.flatMap_cons, Path.Cache.parseAll_append, ← remembers, ← inductionHypothesis]
      rfl

theorem snd_eachEntry
    (entries : List (String × Node))
    (cache : Path.Cache) :
    (eachEntry evaluate entries cache).2 =
      cache.parseAll (entries.flatMap fun entry => paths entry.2) := by
  induction entries generalizing cache with
  | nil => rfl
  | cons entry rest inductionHypothesis =>
      rw [List.flatMap_cons, Path.Cache.parseAll_append, ← remembers, ← inductionHypothesis]
      rfl

end Cache

/-- The paths that an evaluation parses are those of the reads that it performs, in order and with
the loop position in the place of the placeholder. -/
theorem snd_evaluateTo
    (evaluator : Evaluator)
    (scope : Scope)
    (levels : Nat)
    (node : Node)
    (cache : Path.Cache) :
    (evaluator.evaluateTo scope levels node cache).2 =
      cache.parseAll ((evaluator.readsTo levels node).map (evaluator.substitute scope.index)) := by
  induction levels generalizing node cache with
  | zero => rfl
  | succ levels inductionHypothesis =>
      rw [evaluateTo, readsTo]
      cases evaluator.classify node with
      | null | literal node => rfl
      | «variable» path => exact evaluator.snd_read scope path cache
      | operator name input =>
          dsimp only
          rw [← inductionHypothesis]
          cases Table.get? evaluator.operators name <;> rfl
      | object entries =>
          rw [List.map_flatMap]
          exact snd_eachEntry inductionHypothesis entries cache
      | array items =>
          rw [List.map_flatMap]
          exact snd_eachItem inductionHypothesis items cache

/-- Where all operators are built in, an evaluation returns what that of the node with other paths
returns, if these find the same and the store is the same. -/
theorem fst_evaluate_withPaths
    {evaluator : Evaluator}
    (builtIn : evaluator.operators ⊆ Operator.builtin)
    {scope other : Scope}
    {change : String → String}
    {node : Node}
    (finds : ∀ path ∈ evaluator.reads node,
      evaluator.look scope path = evaluator.look other (change path))
    (sameStore : scope.stored = other.stored)
    {cache otherCache : Path.Cache}
    (faithful : cache.Faithful)
    (faithfulOther : otherCache.Faithful) :
    (evaluator.evaluate scope node cache).1 =
      (evaluator.evaluate other (evaluator.withPaths change node) otherCache).1 := by
  have detached : ∀ name operator, Table.get? evaluator.operators name = some operator →
      ∀ input, operator scope input = operator other input :=
    fun _ _ found input => Operator.detached_of_mem_builtin _
      (builtIn (Table.mem_of_get?_eq_some found)) scope other input sameStore
  rw [(evaluator.evaluate_of_faithful scope node faithful).1,
    (evaluator.evaluate_of_faithful other _ faithfulOther).1]
  exact meaningTo_withPathsTo detached levelLimit finds

/-- Where all operators are built in, two evaluations of a node return the same if its reads find
the same and the store is the same. -/
theorem fst_evaluate_congr
    {evaluator : Evaluator}
    (builtIn : evaluator.operators ⊆ Operator.builtin)
    {scope other : Scope}
    {node : Node}
    (finds : ∀ path ∈ evaluator.reads node,
      evaluator.look scope path = evaluator.look other path)
    (sameStore : scope.stored = other.stored)
    {cache otherCache : Path.Cache}
    (faithful : cache.Faithful)
    (faithfulOther : otherCache.Faithful) :
    (evaluator.evaluate scope node cache).1 = (evaluator.evaluate other node otherCache).1 := by
  have kept : evaluator.withPaths id node = node := withPaths_of_fixed fun _ _ => rfl
  have findsChanged : ∀ path ∈ evaluator.reads node,
      evaluator.look scope path = evaluator.look other (id path) := finds
  have same := fst_evaluate_withPaths builtIn findsChanged sameStore faithful faithfulOther
  rwa [kept] at same

/--
Two evaluations of a node in the same loop row and with the same store return the same if the
variables agree from which the reads start that an evaluation of the node performs, whatever else
the variables hold and in whatever order.  These reads are the ones whose paths the evaluation
parses.
-/
theorem evaluate_eq_of_agree
    (evaluator : Evaluator)
    (builtIn : evaluator.operators ⊆ Operator.builtin)
    (context other : Context)
    (index : Option Nat)
    (stored : List (String × Node))
    (node : Node)
    {cache otherCache : Path.Cache}
    (faithful : cache.Faithful)
    (faithfulOther : otherCache.Faithful)
    (agree : ∀ path ∈ evaluator.reads node, ∀ name rest,
      Path.parse (evaluator.substitute index path) = .ok (.key name :: rest) →
        context.get? name = other.get? name) :
    (evaluator.evaluate ⟨context.bindings, index, stored⟩ node cache).1 =
        (evaluator.evaluate ⟨other.bindings, index, stored⟩ node otherCache).1 ∧
      (evaluator.evaluate ⟨context.bindings, index, stored⟩ node cache).2 =
        cache.parseAll ((evaluator.reads node).map (evaluator.substitute index)) := by
  have finds : ∀ path ∈ evaluator.reads node,
      evaluator.look ⟨context.bindings, index, stored⟩ path =
        evaluator.look ⟨other.bindings, index, stored⟩ path := by
    intro path isRead
    refine evaluator.look_congr index stored fun name base => ?_
    unfold base? at base
    split at base
    · next first rest parsed =>
        obtain ⟨key, others, same⟩ := Path.exists_key_of_parse parsed
        obtain ⟨rfl, rfl⟩ := List.cons.inj same
        cases base
        exact agree path isRead _ _ parsed
    · cases base
  exact ⟨fst_evaluate_congr builtIn finds rfl faithful faithfulOther,
    evaluator.snd_evaluateTo _ levelLimit node cache⟩

/-- A branch is chosen that is a row of a list, and the row is an expression.  The variable that the
row names differs, and so does one that is named behind the operator, where nothing is evaluated. -/
theorem evaluate_eq_of_agree_on_rows :
    let evaluator : Evaluator := ⟨Operator.builtin, "$index"⟩
    let read (path : String) : Node := .mapping [("var", .string path)]
    let choice : Node := .mapping [("condition", .bool true), ("then", read "rows[$index]")]
    let node : Node := .mapping [("Operator.if", choice), ("else", read "draft")]
    let rows : Node := .sequence [.null, read "title"]
    let context : Context :=
      { bindings := [("title", .string "old"), ("rows", rows), ("draft", .bool true)] }
    let other : Context := { bindings := [("rows", rows), ("title", .string "new")] }
    evaluator.operators ⊆ Operator.builtin ∧ evaluator.reads node = ["rows[$index]"] ∧
      (evaluator.evaluate ⟨context.bindings, some 1, []⟩ node []).1 =
        (evaluator.evaluate ⟨other.bindings, some 1, []⟩ node []).1 ∧
      Node.same (evaluator.evaluate ⟨context.bindings, some 1, []⟩ node []).1 (read "title") =
        true := by
  intro evaluator read choice node rows context other
  have builtIn : evaluator.operators ⊆ Operator.builtin := fun _ member => member
  have isRead : evaluator.reads node = ["rows[$index]"] := by decide +kernel
  have start : evaluator.base? (some 1) "rows[$index]" = some "rows" := by decide +kernel
  have agree : ∀ path ∈ evaluator.reads node, ∀ name rest,
      Path.parse (evaluator.substitute (some 1) path) = .ok (.key name :: rest) →
        context.get? name = other.get? name := by
    intro path member name rest parsed
    rw [isRead] at member
    obtain rfl := List.mem_singleton.mp member
    rw [base?, parsed] at start
    obtain rfl : name = "rows" := Option.some.inj start
    rfl
  exact ⟨builtIn, isRead, (evaluate_eq_of_agree evaluator builtIn context other (some 1) [] node
    Path.Cache.faithful_nil Path.Cache.faithful_nil agree).1, by decide +kernel⟩

end Evaluator
end Storyboard
