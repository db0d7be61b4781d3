import Storyboard.Proofs.Expression.Meaning
import Storyboard.Proofs.Node.Weights

/-!
# Nodes that stand for themselves

A node in which nothing is read and no operator is applied is its own value, down to the level
where an evaluation stops.  What the evaluation leaves of such a node is again one, on which
evaluating has no effect, whatever the variables are.
-/

namespace Storyboard

/-- A node with `null` in the place of every part that lies a number of levels inside it. -/
def Node.prune : Nat → Node → Node
  | 0, _ => .null
  | level + 1, .sequence items => .sequence (items.map (prune level))
  | level + 1, .mapping entries =>
      .mapping (entries.map fun entry => (entry.1, prune level entry.2))
  | _ + 1, node => node

namespace Evaluator

/-- No mapping in the node has the form of a read, or the name of an operator as its first key. -/
def Inert (evaluator : Evaluator) (node : Node) : Prop :=
  node.All fun part => readPath? (Path.entriesOf part) = none ∧
    ∀ name ∈ (Table.keys (Path.entriesOf part)).head?,
      Table.contains evaluator.operators name = false

instance (evaluator : Evaluator) : DecidablePred evaluator.Inert :=
  fun node => inferInstanceAs (Decidable (node.All fun part =>
    readPath? (Path.entriesOf part) = none ∧
      ∀ name ∈ (Table.keys (Path.entriesOf part)).head?,
        Table.contains evaluator.operators name = false))

end Evaluator

namespace Node

/-! ## What is left of a node -/

section Prune

variable (level : Nat)

theorem prune_sequence (items : List Node) :
    (sequence items).prune (level + 1) = .sequence (items.map (prune level)) := rfl

theorem prune_mapping (entries : List (String × Node)) :
    (mapping entries).prune (level + 1) =
      .mapping (Evaluator.mapValues (prune level) entries) := rfl

end Prune

/-- Nothing lies deeper than the containers are nested. -/
theorem prune_of_depth_le
    {level : Nat}
    {node : Node}
    (shallow : node.depth ≤ level) :
    node.prune (level + 1) = node := by
  induction level generalizing node with
  | zero =>
      cases node with
      | sequence items => simp [depth] at shallow
      | mapping entries => simp [depth] at shallow
      | _ => rfl
  | succ level inductionHypothesis =>
      cases node with
      | sequence items =>
          have each : ∀ item ∈ items, item.prune (level + 1) = item := by
            intro item member
            have below := depth_lt_of_mem_sequence member
            exact inductionHypothesis (by omega)
          rw [prune_sequence, List.map_congr_left each, List.map_id']
      | mapping entries =>
          have each : ∀ entry ∈ entries, entry.2.prune (level + 1) = entry.2 := by
            intro entry member
            have below := depth_lt_of_mem_mapping member
            exact inductionHypothesis (by omega)
          rw [prune_mapping, Evaluator.mapValues_of_fixed each]
      | _ => rfl

/-- What was left of a node stays. -/
theorem prune_prune
    (level : Nat)
    (node : Node) :
    (node.prune level).prune level = node.prune level := by
  induction level generalizing node with
  | zero => rfl
  | succ level inductionHypothesis =>
      cases node with
      | sequence items =>
          rw [prune_sequence, prune_sequence, List.map_map]
          exact congrArg sequence (List.map_congr_left fun item _ => inductionHypothesis item)
      | mapping entries =>
          rw [prune_mapping, prune_mapping, Evaluator.mapValues_mapValues]
          simp only [inductionHypothesis]
      | _ => rfl

/-- No text is made of anything else. -/
theorem eq_string_of_prune_eq_string
    {level : Nat}
    {node : Node}
    {text : String}
    (same : node.prune level = .string text) :
    node = .string text := by
  cases level with
  | zero => cases same
  | succ level =>
      cases node with
      | sequence items => cases same
      | mapping entries => cases same
      | _ => exact same

end Node

namespace Evaluator

variable {evaluator : Evaluator}

/-- What is left of a node that stands for itself stands for itself: no mapping loses an entry, and
none comes to hold a text that it did not hold. -/
theorem Inert.prune
    {node : Node}
    (inert : evaluator.Inert node)
    (level : Nat) :
    evaluator.Inert (node.prune level) := by
  induction level generalizing node with
  | zero => exact Node.all_of_isScalar rfl ⟨rfl, nofun⟩
  | succ level inductionHypothesis =>
      cases node with
      | sequence items =>
          obtain ⟨-, items⟩ := Node.all_sequence_iff.mp inert
          refine Node.all_sequence_iff.mpr ⟨⟨rfl, nofun⟩, fun item member => ?_⟩
          obtain ⟨original, isItem, rfl⟩ := List.mem_map.mp member
          exact inductionHypothesis (items original isItem)
      | mapping entries =>
          obtain ⟨⟨noRead, unknown⟩, values⟩ := Node.all_mapping_iff.mp inert
          refine Node.all_mapping_iff.mpr ⟨⟨?_, ?_⟩, fun entry member => ?_⟩
          · cases entries with
            | nil => rfl
            | cons entry rest =>
                -- A read holds one text, and where a text is left, it was there before.
                exact readPath?_cons_eq_none noRead
                  (fun _ => Node.eq_string_of_prune_eq_string) List.map_eq_nil_iff.mp
          · change ∀ name ∈ (Table.keys (mapValues (Node.prune level) entries)).head?, _
            rw [keys_mapValues]
            exact unknown
          · obtain ⟨original, isEntry, rfl⟩ := List.mem_map.mp member
            exact inductionHypothesis (values original isEntry)
      | _ => exact inert

/-! ## Evaluating what stands for itself -/

/-- A mapping in a node that stands for itself is evaluated entry by entry. -/
theorem Inert.classify_mapping
    {entries : List (String × Node)}
    (inert : evaluator.Inert (.mapping entries)) :
    evaluator.classify (.mapping entries) = .object entries := by
  obtain ⟨⟨noRead, unknown⟩, -⟩ := Node.all_mapping_iff.mp inert
  have noRead : readPath? entries = none := noRead
  rw [Evaluator.classify_mapping, noRead]
  cases entries with
  | nil => rfl
  | cons entry rest =>
      have literal : Table.contains evaluator.operators entry.1 = false := unknown entry.1 rfl
      simp [classifyEntries, literal]

section Each

variable {evaluate : Node → Path.Cache → Node × Path.Cache} {value : Node → Node}

theorem eachItem_of_pure
    {items : List Node}
    (pure : ∀ item ∈ items, ∀ cache, evaluate item cache = (value item, cache))
    (cache : Path.Cache) :
    eachItem evaluate items cache = (items.map value, cache) := by
  induction items with
  | nil => rfl
  | cons item rest inductionHypothesis =>
      have others := inductionHypothesis fun other member =>
        pure other (List.mem_cons_of_mem item member)
      simp only [eachItem, pure item List.mem_cons_self, others, List.map_cons]

theorem eachEntry_of_pure
    {entries : List (String × Node)}
    (pure : ∀ entry ∈ entries, ∀ cache, evaluate entry.2 cache = (value entry.2, cache))
    (cache : Path.Cache) :
    eachEntry evaluate entries cache = (mapValues value entries, cache) := by
  induction entries with
  | nil => rfl
  | cons entry rest inductionHypothesis =>
      obtain ⟨name, node⟩ := entry
      have first : ∀ cache, evaluate node cache = (value node, cache) :=
        pure (name, node) List.mem_cons_self
      have others := inductionHypothesis fun other member =>
        pure other (List.mem_cons_of_mem (name, node) member)
      simp only [eachEntry, first, others, mapValues_cons]

end Each

/-- Down to any level, a node that stands for itself is evaluated to what is left of it there, and
no path is parsed. -/
theorem evaluateTo_of_inert
    (scope : Scope)
    {node : Node}
    (inert : evaluator.Inert node)
    (levels : Nat)
    (cache : Path.Cache) :
    evaluator.evaluateTo scope levels node cache = (node.prune levels, cache) := by
  induction levels generalizing node cache with
  | zero => rfl
  | succ levels inductionHypothesis =>
      cases node with
      | sequence items =>
          obtain ⟨-, each⟩ := Node.all_sequence_iff.mp inert
          have values := eachItem_of_pure
            (fun item member => inductionHypothesis (each item member)) cache
          simp only [evaluateTo, classify, values, Node.prune_sequence]
      | mapping entries =>
          obtain ⟨-, each⟩ := Node.all_mapping_iff.mp inert
          have values := eachEntry_of_pure
            (fun entry member => inductionHypothesis (each entry member)) cache
          simp only [evaluateTo, inert.classify_mapping, values, Node.prune_mapping]
      | _ => rfl

/--
A node in which no mapping has the form of a read or starts with the name of an operator is
evaluated to itself, with `null` in the place of every part on level 257, whatever the variables
are.  Where it is nested no more than 256 deep, that is the node.  Evaluated again, anywhere, the
result stays as it is.
-/
theorem evaluate_of_inert
    (evaluator : Evaluator)
    (scope : Scope)
    {node : Node}
    (inert : evaluator.Inert node)
    (cache : Path.Cache) :
    evaluator.evaluate scope node cache = (node.prune 257, cache) ∧
    (node.depth ≤ 256 → node.prune 257 = node) ∧
    ∀ otherScope otherCache,
      evaluator.evaluate otherScope (node.prune 257) otherCache =
        (node.prune 257, otherCache) := by
  refine ⟨evaluateTo_of_inert scope inert levelLimit cache, Node.prune_of_depth_le, ?_⟩
  intro otherScope otherCache
  have again := evaluateTo_of_inert otherScope (inert.prune levelLimit) levelLimit otherCache
  rwa [Node.prune_prune] at again

/-- A read with another entry and an operator behind another key are no expressions.  Of three
hundred lists below them, 255 are left. -/
theorem evaluate_of_inert_lists :
    let evaluator : Evaluator := ⟨[("Math.sum", fun _ input => input)], "$index"⟩
    let scope : Scope := ⟨[("total", .string "read")], none, []⟩
    let deep : Node := Nat.repeat (fun node => .sequence [node]) 300 (.string "leaf")
    let node : Node :=
      .mapping [("var", .string "total"), ("Math.sum", .sequence [.string "one", deep])]
    evaluator.Inert node ∧
      evaluator.evaluate scope node [] = (node.prune 257, []) ∧
      node.depth = 302 ∧ (node.prune 257).depth = 257 ∧
      evaluator.evaluate ⟨[], some 0, []⟩ (node.prune 257) [] = (node.prune 257, []) := by
  intro evaluator scope deep node
  have inert : evaluator.Inert node := by decide +kernel
  obtain ⟨value, -, again⟩ := evaluate_of_inert evaluator scope inert []
  exact ⟨inert, value, by decide +kernel, by decide +kernel, again ⟨[], some 0, []⟩ []⟩

end Evaluator
end Storyboard
