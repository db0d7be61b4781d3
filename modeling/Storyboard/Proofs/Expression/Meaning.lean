import Storyboard.Expression
import Storyboard.Proofs.Path.Cache

/-!
# The meaning of expressions

The meaning of a node is given by recursion on the node, without a bound on its levels
and without a cache.  An evaluation returns the meaning of a node that is nested no
deeper than the bound.  Of a deeper one it returns the meaning of what is left once the
nodes that lie too deep have given way to `null`.
-/

namespace Storyboard
namespace Evaluator

/-- The path that the entries of a mapping read, where they have the form of a read. -/
def readPath? : List (String × Node) → Option String
  | [(name, .string path)] => if name = variableKey then some path else none
  | _ => none

/-- The value at a path given as text; where there is none, `null`. -/
def look (evaluator : Evaluator) (scope : Scope) (path : String) : Node :=
  match Path.parse (evaluator.substitute scope.index path) with
  | .ok components => scope.bindings.read components
  | .error _ => .null

mutual

/--
The meaning of a node.  A read means the value at its path, and a mapping whose first key is the
name of an operator means what the operator makes of the meaning of the first value.  Every other
container means the container of the meanings, and a scalar means itself.
-/
def meaning (evaluator : Evaluator) (scope : Scope) : Node → Node
  | .sequence items => .sequence (meaningItems evaluator scope items)
  | .mapping entries =>
      match readPath? entries with
      | some path => evaluator.look scope path
      | none =>
          match entries with
          | [] => .mapping []
          | (name, input) :: rest =>
              match Table.get? evaluator.operators name with
              | some operator => operator scope (meaning evaluator scope input)
              | none =>
                  .mapping ((name, meaning evaluator scope input) ::
                    meaningEntries evaluator scope rest)
  | node => node

/-- The meanings of items. -/
def meaningItems (evaluator : Evaluator) (scope : Scope) : List Node → List Node
  | [] => []
  | item :: rest => meaning evaluator scope item :: meaningItems evaluator scope rest

/-- Entries with the meanings of their values. -/
def meaningEntries (evaluator : Evaluator) (scope : Scope) :
    List (String × Node) → List (String × Node)
  | [] => []
  | (key, value) :: rest =>
      (key, meaning evaluator scope value) :: meaningEntries evaluator scope rest

end

mutual

/-- The deepest level on which a part of a node is evaluated, the node itself being on level 0. -/
def nesting (evaluator : Evaluator) : Node → Nat
  | .sequence items => nestingItems evaluator items
  | .mapping entries =>
      match readPath? entries with
      | some _ => 0
      | none =>
          match entries with
          | [] => 0
          | (name, input) :: rest =>
              if Table.contains evaluator.operators name then nesting evaluator input + 1
              else max (nesting evaluator input + 1) (nestingEntries evaluator rest)
  | _ => 0

/-- The deepest level below a sequence of items. -/
def nestingItems (evaluator : Evaluator) : List Node → Nat
  | [] => 0
  | item :: rest => max (nesting evaluator item + 1) (nestingItems evaluator rest)

/-- The deepest level below a mapping of entries. -/
def nestingEntries (evaluator : Evaluator) : List (String × Node) → Nat
  | [] => 0
  | (_, value) :: rest => max (nesting evaluator value + 1) (nestingEntries evaluator rest)

end

/-- Entries whose values are changed. -/
def mapValues (change : Node → Node) (entries : List (String × Node)) : List (String × Node) :=
  entries.map fun entry => (entry.1, change entry.2)

/-- A node with `null` in the place of every part that would be evaluated on a level. -/
def truncate (evaluator : Evaluator) : Nat → Node → Node
  | 0, _ => .null
  | level + 1, .sequence items => .sequence (items.map (truncate evaluator level))
  | level + 1, .mapping entries =>
      match readPath? entries with
      | some _ => .mapping entries
      | none =>
          match entries with
          | [] => .mapping []
          | (name, input) :: rest =>
              .mapping ((name, truncate evaluator level input) ::
                if Table.contains evaluator.operators name then rest
                else mapValues (truncate evaluator level) rest)
  | _ + 1, node => node

/-! ## Containers -/

theorem mapValues_cons
    (change : Node → Node)
    (name : String)
    (value : Node)
    (rest : List (String × Node)) :
    mapValues change ((name, value) :: rest) = (name, change value) :: mapValues change rest := rfl

theorem mapValues_mapValues
    (change after : Node → Node)
    (entries : List (String × Node)) :
    mapValues after (mapValues change entries) =
      mapValues (fun value => after (change value)) entries := by
  simp [mapValues]

theorem keys_mapValues
    (change : Node → Node)
    (entries : List (String × Node)) :
    Table.keys (mapValues change entries) = Table.keys entries := by
  simp [Table.keys, mapValues]

theorem mapValues_of_fixed
    {change : Node → Node}
    {entries : List (String × Node)}
    (fixed : ∀ entry ∈ entries, change entry.2 = entry.2) :
    mapValues change entries = entries := by
  have each : ∀ entry ∈ entries, (entry.1, change entry.2) = entry := by
    intro entry member
    rw [fixed entry member]
  rw [mapValues, List.map_congr_left each, List.map_id']

theorem meaningItems_eq_map
    (evaluator : Evaluator)
    (scope : Scope)
    (items : List Node) :
    meaningItems evaluator scope items = items.map (evaluator.meaning scope) := by
  induction items with
  | nil => rfl
  | cons item rest inductionHypothesis =>
      rw [meaningItems, inductionHypothesis, List.map_cons]

theorem meaningEntries_eq_mapValues
    (evaluator : Evaluator)
    (scope : Scope)
    (entries : List (String × Node)) :
    meaningEntries evaluator scope entries = mapValues (evaluator.meaning scope) entries := by
  induction entries with
  | nil => rfl
  | cons entry rest inductionHypothesis =>
      rw [meaningEntries, inductionHypothesis]
      rfl

theorem nesting_lt_nestingItems
    (evaluator : Evaluator)
    {items : List Node}
    {item : Node}
    (member : item ∈ items) :
    evaluator.nesting item < evaluator.nestingItems items := by
  induction items with
  | nil => cases member
  | cons first rest inductionHypothesis =>
      rw [nestingItems]
      rcases List.mem_cons.mp member with rfl | inRest
      · omega
      · have below := inductionHypothesis inRest
        omega

theorem nesting_lt_nestingEntries
    (evaluator : Evaluator)
    {entries : List (String × Node)}
    {entry : String × Node}
    (member : entry ∈ entries) :
    evaluator.nesting entry.2 < evaluator.nestingEntries entries := by
  induction entries with
  | nil => cases member
  | cons first rest inductionHypothesis =>
      rw [nestingEntries]
      rcases List.mem_cons.mp member with rfl | inRest
      · omega
      · have below := inductionHypothesis inRest
        omega

/-- How a mapping is evaluated. -/
theorem classify_mapping
    (evaluator : Evaluator)
    (entries : List (String × Node)) :
    evaluator.classify (.mapping entries) =
      match readPath? entries with
      | some path => .variable path
      | none => evaluator.classifyEntries entries := by
  match entries with
  | [] => rfl
  | [(name, .string path)] =>
      by_cases isVariable : name = variableKey <;> simp [classify, readPath?, isVariable]
  | [(_, .null)] => rfl
  | [(_, .bool _)] => rfl
  | [(_, .number _)] => rfl
  | [(_, .sequence _)] => rfl
  | [(_, .mapping _)] => rfl
  | (_, value) :: _ :: _ => cases value <;> rfl

/-! ## The forms of a mapping -/

theorem readPath?_eq_some_iff
    (entries : List (String × Node))
    (path : String) :
    readPath? entries = some path ↔ entries = [(variableKey, .string path)] := by
  constructor
  · intro reads
    unfold readPath? at reads
    split at reads
    · next name text =>
        split at reads
        · next isVariable =>
            obtain rfl : text = path := by simpa using reads
            rw [isVariable]
        · cases reads
    · cases reads
  · rintro rfl
    rfl

/-- A mapping does not come to be a read when its first value does not come to be a text and no
entry is lost. -/
theorem readPath?_cons_eq_none
    {name : String}
    {input input' : Node}
    {rest rest' : List (String × Node)}
    (noRead : readPath? ((name, input) :: rest) = none)
    (texts : ∀ text, input' = .string text → input = .string text)
    (single : rest' = [] → rest = []) :
    readPath? ((name, input') :: rest') = none := by
  cases reads : readPath? ((name, input') :: rest') with
  | none => rfl
  | some path =>
      have form := (readPath?_eq_some_iff _ path).mp reads
      simp only [List.cons.injEq, Prod.mk.injEq] at form
      obtain ⟨⟨isVariable, isText⟩, isSingle⟩ := form
      have wasRead : readPath? ((name, input) :: rest) = some path :=
        (readPath?_eq_some_iff _ path).mpr (by rw [isVariable, texts path isText, single isSingle])
      rw [noRead] at wasRead
      cases wasRead

section Forms

variable {evaluator : Evaluator} {scope : Scope} {name : String} {input : Node}
  {rest : List (String × Node)}

theorem meaning_of_read
    {entries : List (String × Node)}
    {path : String}
    (reads : readPath? entries = some path) :
    evaluator.meaning scope (.mapping entries) = evaluator.look scope path := by
  rw [meaning.eq_def]
  simp only [reads]

theorem meaning_of_operator
    {operator : Operator}
    (noRead : readPath? ((name, input) :: rest) = none)
    (registered : Table.get? evaluator.operators name = some operator) :
    evaluator.meaning scope (.mapping ((name, input) :: rest)) =
      operator scope (evaluator.meaning scope input) := by
  simp only [meaning, noRead, registered]

theorem meaning_of_object
    (noRead : readPath? ((name, input) :: rest) = none)
    (unknown : Table.get? evaluator.operators name = none) :
    evaluator.meaning scope (.mapping ((name, input) :: rest)) =
      .mapping (mapValues (evaluator.meaning scope) ((name, input) :: rest)) := by
  simp only [meaning, noRead, unknown, meaningEntries_eq_mapValues]
  rfl

theorem truncate_of_read
    {entries : List (String × Node)}
    {path : String}
    (reads : readPath? entries = some path)
    (level : Nat) :
    evaluator.truncate (level + 1) (.mapping entries) = .mapping entries := by
  simp only [truncate, reads]

theorem truncate_of_operator
    (noRead : readPath? ((name, input) :: rest) = none)
    (registered : Table.contains evaluator.operators name = true)
    (level : Nat) :
    evaluator.truncate (level + 1) (.mapping ((name, input) :: rest)) =
      .mapping ((name, evaluator.truncate level input) :: rest) := by
  simp only [truncate, noRead, registered, if_true]

theorem truncate_of_object
    (noRead : readPath? ((name, input) :: rest) = none)
    (unknown : Table.contains evaluator.operators name = false)
    (level : Nat) :
    evaluator.truncate (level + 1) (.mapping ((name, input) :: rest)) =
      .mapping (mapValues (evaluator.truncate level) ((name, input) :: rest)) := by
  simp only [truncate, noRead, unknown]
  rfl

end Forms

/-- Truncation makes no text out of anything else. -/
theorem eq_string_of_truncate_eq_string
    {evaluator : Evaluator}
    {level : Nat}
    {node : Node}
    {text : String}
    (same : evaluator.truncate level node = .string text) :
    node = .string text := by
  cases level with
  | zero => cases same
  | succ level =>
      cases node with
      | mapping entries =>
          simp only [truncate] at same
          split at same
          · cases same
          · split at same <;> cases same
      | sequence items => cases same
      | _ => exact same

/-- The truncated first value of a mapping does not make it a read. -/
theorem readPath?_truncate_eq_none
    (evaluator : Evaluator)
    (level : Nat)
    {name : String}
    {input : Node}
    {rest rest' : List (String × Node)}
    (noRead : readPath? ((name, input) :: rest) = none)
    (single : rest' = [] → rest = []) :
    readPath? ((name, evaluator.truncate level input) :: rest') = none :=
  readPath?_cons_eq_none noRead (fun _ => eq_string_of_truncate_eq_string) single

/-! ## The meaning down to a level -/

/-- The meaning of what is left of a node on a number of levels. -/
def meaningTo (evaluator : Evaluator) (scope : Scope) (levels : Nat) (node : Node) : Node :=
  evaluator.meaning scope (evaluator.truncate levels node)

section Levels

variable (evaluator : Evaluator) (scope : Scope) (level : Nat)

theorem meaningTo_sequence (items : List Node) :
    evaluator.meaningTo scope (level + 1) (.sequence items) =
      .sequence (items.map (evaluator.meaningTo scope level)) := by
  rw [meaningTo, truncate, meaning, meaningItems_eq_map, List.map_map]
  rfl

variable {evaluator}

theorem meaningTo_of_read
    {entries : List (String × Node)}
    {path : String}
    (reads : readPath? entries = some path) :
    evaluator.meaningTo scope (level + 1) (.mapping entries) = evaluator.look scope path := by
  rw [meaningTo, truncate_of_read reads, meaning_of_read reads]

theorem meaningTo_of_operator
    {name : String}
    {input : Node}
    {rest : List (String × Node)}
    {operator : Operator}
    (noRead : readPath? ((name, input) :: rest) = none)
    (known : Table.get? evaluator.operators name = some operator) :
    evaluator.meaningTo scope (level + 1) (.mapping ((name, input) :: rest)) =
      operator scope (evaluator.meaningTo scope level input) := by
  have registered : Table.contains evaluator.operators name = true := by
    simp [Table.contains, known]
  rw [meaningTo, truncate_of_operator noRead registered,
    meaning_of_operator (evaluator.readPath?_truncate_eq_none level noRead id) known]
  rfl

theorem meaningTo_of_object
    {name : String}
    {input : Node}
    {rest : List (String × Node)}
    (noRead : readPath? ((name, input) :: rest) = none)
    (unknown : Table.get? evaluator.operators name = none) :
    evaluator.meaningTo scope (level + 1) (.mapping ((name, input) :: rest)) =
      .mapping (mapValues (evaluator.meaningTo scope level) ((name, input) :: rest)) := by
  have unregistered : Table.contains evaluator.operators name = false := by
    simp [Table.contains, unknown]
  have stillNoRead : readPath?
      ((name, evaluator.truncate level input) :: mapValues (evaluator.truncate level) rest) =
        none :=
    evaluator.readPath?_truncate_eq_none level noRead (by simp [mapValues])
  rw [meaningTo, truncate_of_object noRead unregistered, mapValues_cons,
    meaning_of_object stillNoRead unknown, ← mapValues_cons, mapValues_mapValues]
  rfl

end Levels

/-! ## Evaluation returns the meaning -/

section Caches

variable {property : Path.Cache → Prop}
  (faithful : ∀ {cache : Path.Cache}, property cache → cache.Faithful)
  (parse : ∀ {cache : Path.Cache} (path : String), property cache → property (cache.parse path).2)

include faithful parse in
/-- A read through a cache looks at its path. -/
theorem read_spec
    (evaluator : Evaluator)
    (scope : Scope)
    (path : String)
    {cache : Path.Cache}
    (holds : property cache) :
    (evaluator.read scope path cache).1 = evaluator.look scope path ∧
      property (evaluator.read scope path cache).2 := by
  have outcome := (faithful holds).fst_parse (evaluator.substitute scope.index path)
  have kept := parse (evaluator.substitute scope.index path) holds
  unfold read look
  rw [← outcome]
  revert kept
  cases cache.parse (evaluator.substitute scope.index path) with
  | mk result remembered => cases result <;> exact fun kept => ⟨rfl, kept⟩

theorem eachItem_spec
    {evaluate : Node → Path.Cache → Node × Path.Cache}
    {value : Node → Node}
    (spec : ∀ node {cache}, property cache →
      (evaluate node cache).1 = value node ∧ property (evaluate node cache).2)
    (items : List Node)
    {cache : Path.Cache}
    (holds : property cache) :
    (eachItem evaluate items cache).1 = items.map value ∧
      property (eachItem evaluate items cache).2 := by
  induction items generalizing cache with
  | nil => exact ⟨rfl, holds⟩
  | cons item rest inductionHypothesis =>
      obtain ⟨first, kept⟩ := spec item holds
      obtain ⟨others, keptAfter⟩ := inductionHypothesis kept
      exact ⟨by rw [List.map_cons, ← first, ← others]; rfl, keptAfter⟩

theorem eachEntry_spec
    {evaluate : Node → Path.Cache → Node × Path.Cache}
    {value : Node → Node}
    (spec : ∀ node {cache}, property cache →
      (evaluate node cache).1 = value node ∧ property (evaluate node cache).2)
    (entries : List (String × Node))
    {cache : Path.Cache}
    (holds : property cache) :
    (eachEntry evaluate entries cache).1 = mapValues value entries ∧
      property (eachEntry evaluate entries cache).2 := by
  induction entries generalizing cache with
  | nil => exact ⟨rfl, holds⟩
  | cons entry rest inductionHypothesis =>
      obtain ⟨first, kept⟩ := spec entry.2 holds
      obtain ⟨others, keptAfter⟩ := inductionHypothesis kept
      refine ⟨?_, keptAfter⟩
      change _ = (entry.1, value entry.2) :: mapValues value rest
      rw [← first, ← others]
      rfl

include faithful parse in
/-- An evaluation down to a number of levels returns the meaning of the node that is truncated
there. -/
theorem evaluateTo_spec
    (evaluator : Evaluator)
    (scope : Scope)
    (levels : Nat)
    (node : Node)
    {cache : Path.Cache}
    (holds : property cache) :
    (evaluator.evaluateTo scope levels node cache).1 =
        evaluator.meaning scope (evaluator.truncate levels node) ∧
      property (evaluator.evaluateTo scope levels node cache).2 := by
  rw [← meaningTo]
  induction levels generalizing node cache with
  | zero => exact ⟨rfl, holds⟩
  | succ levels inductionHypothesis =>
      cases node with
      | sequence items =>
          obtain ⟨values, kept⟩ := eachItem_spec inductionHypothesis items holds
          rw [meaningTo_sequence, ← values]
          exact ⟨rfl, kept⟩
      | mapping entries =>
          rw [evaluateTo, classify_mapping]
          cases reads : readPath? entries with
          | some path =>
              rw [meaningTo_of_read scope levels reads]
              exact read_spec faithful parse evaluator scope path holds
          | none =>
              cases entries with
              | nil => exact ⟨rfl, holds⟩
              | cons entry rest =>
                  obtain ⟨name, input⟩ := entry
                  cases known : Table.get? evaluator.operators name with
                  | some operator =>
                      have registered : Table.contains evaluator.operators name = true := by
                        simp [Table.contains, known]
                      obtain ⟨value, kept⟩ := inductionHypothesis input holds
                      rw [meaningTo_of_operator scope levels reads known, ← value]
                      simp only [classifyEntries, registered, if_true, known]
                      exact ⟨trivial, kept⟩
                  | none =>
                      have unknown : Table.contains evaluator.operators name = false := by
                        simp [Table.contains, known]
                      obtain ⟨values, kept⟩ :=
                        eachEntry_spec inductionHypothesis ((name, input) :: rest) holds
                      rw [meaningTo_of_object scope levels reads known, ← values]
                      simp only [classifyEntries, unknown]
                      exact ⟨rfl, kept⟩
      | _ => exact ⟨rfl, holds⟩

end Caches

/-- What an evaluation returns, whatever the cache remembers. -/
def result (evaluator : Evaluator) (scope : Scope) (node : Node) : Node :=
  evaluator.meaning scope (evaluator.truncate levelLimit node)

/-- An evaluation through a faithful cache leaves a faithful cache and returns the result. -/
theorem evaluate_of_faithful
    (evaluator : Evaluator)
    (scope : Scope)
    (node : Node)
    {cache : Path.Cache}
    (faithful : cache.Faithful) :
    (evaluator.evaluate scope node cache).1 = evaluator.result scope node ∧
      (evaluator.evaluate scope node cache).2.Faithful :=
  evaluateTo_spec id (fun path faithful => faithful.snd_parse path) evaluator scope levelLimit
    node faithful

/-! ## Nodes that are not too deep -/

/-- Truncation beyond the deepest level changes nothing. -/
theorem truncate_of_nesting_lt
    (evaluator : Evaluator)
    {levels : Nat}
    {node : Node}
    (shallow : evaluator.nesting node < levels) :
    evaluator.truncate levels node = node := by
  induction levels generalizing node with
  | zero => omega
  | succ levels inductionHypothesis =>
      cases node with
      | sequence items =>
          have each : ∀ item ∈ items, evaluator.truncate levels item = item := by
            intro item member
            have below := evaluator.nesting_lt_nestingItems member
            rw [nesting] at shallow
            exact inductionHypothesis (by omega)
          rw [truncate, List.map_congr_left each, List.map_id']
      | mapping entries =>
          cases reads : readPath? entries with
          | some path => exact truncate_of_read reads levels
          | none =>
              cases entries with
              | nil => rfl
              | cons entry rest =>
                  obtain ⟨name, input⟩ := entry
                  simp only [nesting, reads] at shallow
                  cases known : Table.contains evaluator.operators name with
                  | true =>
                      rw [known, if_pos rfl] at shallow
                      rw [truncate_of_operator reads known, inductionHypothesis (by omega)]
                  | false =>
                      rw [known, if_neg (by decide)] at shallow
                      have each : ∀ entry ∈ (name, input) :: rest,
                          evaluator.truncate levels entry.2 = entry.2 := by
                        intro entry member
                        have below := evaluator.nesting_lt_nestingEntries member
                        rw [nestingEntries] at below
                        exact inductionHypothesis (by omega)
                      rw [truncate_of_object reads known, mapValues_of_fixed each]
      | _ => rfl

/--
An evaluation returns the meaning of a node whose parts are evaluated on the levels up to 256.
Where the levels go deeper, it returns the meaning of the node in which `null` stands in the place
of every part that would be evaluated on level 257.  Every cache that can be reached will do, and
the one that is left can be reached again.
-/
theorem evaluate_eq_meaning
    (evaluator : Evaluator)
    (scope : Scope)
    (node : Node)
    {cache : Path.Cache}
    (reachable : cache.Reachable) :
    (evaluator.nesting node ≤ 256 →
      (evaluator.evaluate scope node cache).1 = evaluator.meaning scope node) ∧
    (256 < evaluator.nesting node →
      (evaluator.evaluate scope node cache).1 =
        evaluator.meaning scope (evaluator.truncate 257 node)) ∧
    (evaluator.evaluate scope node cache).2.Reachable := by
  obtain ⟨value, kept⟩ := evaluateTo_spec Path.Cache.Reachable.faithful
    (fun path reachable => reachable.parse path) evaluator scope levelLimit node reachable
  refine ⟨fun shallow => ?_, fun _ => value, kept⟩
  have untouched : evaluator.truncate levelLimit node = node :=
    evaluator.truncate_of_nesting_lt (Nat.lt_succ_of_le shallow)
  rw [evaluate, value, untouched]

/-- A read below a mapping finds the text in the row of the current index.  Of three hundred lists
around a text, 257 are left, the innermost of them around `null`. -/
theorem evaluate_three_hundred_lists :
    let evaluator : Evaluator := ⟨[("String.trim", fun _ input => input)], "$index"⟩
    let scope : Scope := ⟨[("rows", .sequence [.string "first"])], some 0, []⟩
    let cache : Path.Cache := (Path.Cache.parse [] "rows[0]").2
    let shallow : Node := .mapping [("title", .mapping [("var", .string "rows[$index]")])]
    let deep : Node := Nat.repeat (fun node => .sequence [node]) 300 (.string "leaf")
    cache.Reachable ∧ evaluator.nesting shallow ≤ 256 ∧
      Node.same (evaluator.evaluate scope shallow cache).1
        (.mapping [("title", .string "first")]) = true ∧
      256 < evaluator.nesting deep ∧ deep.depth = 300 ∧
      (evaluator.evaluate scope deep cache).1.depth = 257 := by
  intro evaluator scope cache shallow deep
  have reachable : cache.Reachable := .parse .empty "rows[0]"
  have inBound : evaluator.nesting shallow ≤ 256 := by decide +kernel
  have tooDeep : 256 < evaluator.nesting deep := by decide +kernel
  refine ⟨reachable, inBound, ?_, tooDeep, by decide +kernel, ?_⟩
  · rw [(evaluate_eq_meaning evaluator scope shallow reachable).1 inBound]
    decide +kernel
  · rw [(evaluate_eq_meaning evaluator scope deep reachable).2.1 tooDeep]
    decide +kernel

end Evaluator
end Storyboard
