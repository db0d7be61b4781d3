import Storyboard.Proofs.Decimal.Digits
import Storyboard.Proofs.Node.Reading

/-!
# Nodes as trees

A node whose numbers all have digits has a tree, and otherwise the first number is told that has
none.  The tree is written as the node is.  What is read of the text is the tree again, and the
node of the tree is the node in which whole numbers are plain.
-/

namespace Storyboard
namespace Node

open Json
open Decimal (lacksDigits)

mutual

/-- The tree of a node; a number without digits has its place there as any other. -/
def tree : Node → Tree
  | .null => .null
  | .bool value => .bool value
  | .number value =>
      match Decimal.exactInteger? value with
      | some whole => .number (.integer whole)
      | none => .number (.real value)
  | .string value => .text value
  | .sequence items => .list (treeItems items)
  | .mapping entries => .table (treeEntries entries)

/-- The trees of items. -/
def treeItems : List Node → List Tree
  | [] => []
  | item :: rest => tree item :: treeItems rest

/-- The trees of the values of entries. -/
def treeEntries : List (String × Node) → List (String × Tree)
  | [] => []
  | (key, value) :: rest => (key, tree value) :: treeEntries rest

end

theorem treeItems_eq_map (items : List Node) : treeItems items = items.map tree := by
  induction items with
  | nil => rfl
  | cons item rest inductionHypothesis => rw [treeItems, inductionHypothesis, List.map_cons]

theorem treeEntries_eq_map (entries : List (String × Node)) :
    treeEntries entries = entries.map fun entry => (entry.1, tree entry.2) := by
  induction entries with
  | nil => rfl
  | cons entry rest inductionHypothesis => rw [treeEntries, inductionHypothesis, List.map_cons]

/-! ## Numbers with digits -/

/-- Whether the node, if it is a number, has digits. -/
def hasDigits : Node → Bool
  | .number value => Decimal.isFinite value
  | _ => true

/-- Every number in the node has digits. -/
def FiniteNumbers (node : Node) : Prop :=
  node.All fun part => part.hasDigits = true

/-- The numbers in a node, in the order of its text. -/
def numbers (node : Node) : List Float := node.parts.filterMap asNumber?

/-- The first number in a node, in the order of its text, that lacks digits. -/
def lacking? (node : Node) : Option Float := node.numbers.find? lacksDigits

theorem numbers_sequence (items : List Node) :
    (Node.sequence items).numbers = items.flatMap numbers := by
  rw [numbers, parts, partsOfItems_eq_flatMap]
  exact List.filterMap_flatMap

theorem numbers_mapping (entries : List (String × Node)) :
    (Node.mapping entries).numbers = entries.flatMap fun entry => entry.2.numbers := by
  rw [numbers, parts, partsOfEntries_eq_flatMap]
  exact List.filterMap_flatMap

theorem hasDigits_number_iff
    {value : Float} :
    (Node.number value).hasDigits = true ↔ ¬ lacksDigits value = true := by
  rw [hasDigits, Decimal.isFinite_eq, Bool.not_eq_true', Bool.not_eq_true]

/-- A whole number has digits. -/
theorem WholeNumbers.finiteNumbers
    {node : Node}
    (whole : node.WholeNumbers) :
    node.FiniteNumbers := by
  refine whole.mono fun part known => ?_
  cases part with
  | number value =>
      obtain ⟨number, exact⟩ := Option.isSome_iff_exists.mp known
      exact hasDigits_number_iff.mpr
        (Bool.eq_false_iff.mp (Decimal.lacksDigits_of_exactInteger? exact))
  | _ => rfl

/-- The numbers of a node all have digits exactly if none is the first that lacks them. -/
theorem lacking?_eq_none_iff
    {node : Node} :
    node.lacking? = none ↔ node.FiniteNumbers := by
  rw [lacking?, List.find?_eq_none]
  constructor
  · intro none part isPart
    cases part with
    | number value =>
        exact hasDigits_number_iff.mpr (none value (List.mem_filterMap.mpr ⟨_, isPart, rfl⟩))
    | _ => rfl
  · intro finite value member
    obtain ⟨part, isPart, isNumber⟩ := List.mem_filterMap.mp member
    cases part with
    | number number =>
        obtain rfl : number = value := Option.some.inj isNumber
        exact hasDigits_number_iff.mp (finite _ isPart)
    | _ => cases isNumber

/-! ## Making the tree -/

/-- What is refused if it is found, and otherwise what is made. -/
def refusal {α : Type} (found : Option Float) (made : α) : Except Float α :=
  match found with
  | some value => .error value
  | none => .ok made

theorem toTrees_eq
    {items : List Node}
    (each : ∀ item ∈ items, item.toTree = refusal item.lacking? item.tree) :
    toTrees items = refusal ((items.flatMap numbers).find? lacksDigits) (treeItems items) := by
  induction items with
  | nil => rfl
  | cons item rest inductionHypothesis =>
      obtain ⟨first, others⟩ := List.forall_mem_cons.mp each
      rw [toTrees, first, inductionHypothesis others, List.flatMap_cons, List.find?_append,
        ← lacking?]
      cases item.lacking? with
      | some value => rfl
      | none => cases (rest.flatMap numbers).find? lacksDigits <;> rfl

theorem toTreeEntries_eq
    {entries : List (String × Node)}
    (each : ∀ entry ∈ entries, entry.2.toTree = refusal entry.2.lacking? entry.2.tree) :
    toTreeEntries entries =
      refusal ((entries.flatMap fun entry => entry.2.numbers).find? lacksDigits)
        (treeEntries entries) := by
  induction entries with
  | nil => rfl
  | cons entry rest inductionHypothesis =>
      obtain ⟨first, others⟩ := List.forall_mem_cons.mp each
      rw [toTreeEntries, first, inductionHypothesis others, List.flatMap_cons, List.find?_append,
        ← lacking?]
      cases entry.2.lacking? with
      | some value => rfl
      | none => cases (rest.flatMap fun entry => entry.2.numbers).find? lacksDigits <;> rfl

/-- The tree of a node is refused for the first number that lacks digits, and only for such a
one. -/
theorem toTree_eq_refusal (node : Node) : node.toTree = refusal node.lacking? node.tree := by
  induction node using structural with
  | null | bool value | string value => rfl
  | number value =>
      have found : (Node.number value).lacking? = [value].find? lacksDigits := rfl
      rw [toTree, numberTree, tree, found, List.find?_singleton]
      cases exact : Decimal.exactInteger? value with
      | some whole =>
          rw [Decimal.lacksDigits_of_exactInteger? exact]
          rfl
      | none =>
          simp only [Decimal.isFinite_eq]
          cases lacksDigits value <;> rfl
  | sequence items inductionHypothesis =>
      rw [toTree, toTrees_eq inductionHypothesis, lacking?, numbers_sequence]
      cases (items.flatMap numbers).find? lacksDigits <;> rfl
  | mapping entries inductionHypothesis =>
      rw [toTree, toTreeEntries_eq inductionHypothesis, lacking?, numbers_mapping]
      cases (entries.flatMap fun entry => entry.2.numbers).find? lacksDigits <;> rfl

theorem toTree_eq_error_iff
    {node : Node}
    {value : Float} :
    node.toTree = .error value ↔ node.lacking? = some value := by
  rw [toTree_eq_refusal]
  cases node.lacking? <;> simp [refusal]

/-- A node whose numbers all have digits has a tree, and no other node has one. -/
theorem toTree_eq_ok_iff
    {node : Node}
    {made : Tree} :
    node.toTree = .ok made ↔ node.FiniteNumbers ∧ node.tree = made := by
  rw [toTree_eq_refusal, ← lacking?_eq_none_iff]
  cases node.lacking? <;> simp [refusal]

theorem toTree_eq_ok
    {node : Node}
    (finite : node.FiniteNumbers) :
    node.toTree = .ok node.tree :=
  toTree_eq_ok_iff.mpr ⟨finite, rfl⟩

/-! ## Writing the tree -/

theorem compactItems_treeItems
    {items : List Node}
    (each : ∀ item ∈ items, item.tree.compact = item.compact) :
    Tree.compactItems (treeItems items) = compactItems items := by
  induction items with
  | nil => rfl
  | cons item rest inductionHypothesis =>
      obtain ⟨first, others⟩ := List.forall_mem_cons.mp each
      rw [treeItems, Tree.compactItems, compactItems, first, inductionHypothesis others]

theorem compactEntries_treeEntries
    {entries : List (String × Node)}
    (each : ∀ entry ∈ entries, entry.2.tree.compact = entry.2.compact) :
    Tree.compactEntries (treeEntries entries) = compactEntries entries := by
  induction entries with
  | nil => rfl
  | cons entry rest inductionHypothesis =>
      obtain ⟨first, others⟩ := List.forall_mem_cons.mp each
      rw [treeEntries, Tree.compactEntries, compactEntries, first, inductionHypothesis others]

/-- The tree of a node is written as the node is. -/
theorem compact_tree
    {node : Node}
    (finite : node.FiniteNumbers) :
    node.tree.compact = node.compact := by
  induction node using structural with
  | null | bool value | string value => rfl
  | number value =>
      have digits : Decimal.isFinite value = true := finite.self
      rw [tree, compact, Decimal.interchangeChars]
      cases Decimal.exactInteger? value with
      | some whole => rfl
      | none => exact (if_pos digits).symm
  | sequence items inductionHypothesis =>
      obtain ⟨-, finiteItems⟩ := all_sequence_iff.mp finite
      have each : ∀ item ∈ items, item.tree.compact = item.compact := fun item member =>
        inductionHypothesis item member (finiteItems item member)
      cases items with
      | nil => rfl
      | cons first rest =>
          obtain ⟨firstSame, restSame⟩ := List.forall_mem_cons.mp each
          rw [tree, treeItems, Tree.compact, compact, firstSame, compactItems_treeItems restSame]
  | mapping entries inductionHypothesis =>
      obtain ⟨-, finiteEntries⟩ := all_mapping_iff.mp finite
      have each : ∀ entry ∈ entries, entry.2.tree.compact = entry.2.compact := fun entry member =>
        inductionHypothesis entry member (finiteEntries entry member)
      cases entries with
      | nil => rfl
      | cons first rest =>
          obtain ⟨firstSame, restSame⟩ := List.forall_mem_cons.mp each
          rw [tree, treeEntries, Tree.compact, compact, firstSame,
            compactEntries_treeEntries restSame]

theorem render_tree
    {node : Node}
    (finite : node.FiniteNumbers) :
    node.tree.render = node.render :=
  congrArg String.ofList (compact_tree finite)

/-! ## The node of a tree -/

theorem ofTrees_eq_map (items : List Tree) : ofTrees items = items.map ofTree := by
  induction items with
  | nil => rfl
  | cons item rest inductionHypothesis => rw [ofTrees, inductionHypothesis, List.map_cons]

theorem ofTreeEntries_eq_map (entries : List (String × Tree)) :
    ofTreeEntries entries = entries.map fun entry => (entry.1, ofTree entry.2) := by
  induction entries with
  | nil => rfl
  | cons entry rest inductionHypothesis => rw [ofTreeEntries, inductionHypothesis, List.map_cons]

/-- The node of a node's tree is the node with its whole numbers plain. -/
theorem ofTree_tree (node : Node) : ofTree node.tree = node.mapNumbers plainNumber := by
  induction node using structural with
  | null | bool value | string value => rfl
  | number value =>
      rw [tree, mapNumbers, plainNumber]
      cases Decimal.exactInteger? value <;> rfl
  | sequence items inductionHypothesis =>
      rw [tree, ofTree, ofTrees_eq_map, treeItems_eq_map, List.map_map, mapNumbers,
        mapNumbersItems_eq_map]
      exact congrArg Node.sequence (List.map_congr_left inductionHypothesis)
  | mapping entries inductionHypothesis =>
      rw [tree, ofTree, ofTreeEntries_eq_map, treeEntries_eq_map, List.map_map, mapNumbers,
        mapNumbersEntries_eq_map]
      refine congrArg Node.mapping (List.map_congr_left fun entry member => ?_)
      exact congrArg (Prod.mk entry.1) (inductionHypothesis entry member)

/-! ## Reading the tree -/

/-- What is read of a node's text as a tree is the tree of the node. -/
theorem makes_tree : Tree.builder.Makes tree where
  null := rfl
  bool _ := rfl
  number value whole rest exact ends := by
    simp only [Tree.builder, number_of_exactInteger? exact ends, mapValue, tree, exact]
  text value rest := by
    simp only [Tree.builder, quoted_written, mapValue, tree]
  key := quoted_written
  list items := by
    rw [tree, treeItems_eq_map]
    rfl
  table entries distinct := by
    rw [tree, treeEntries_eq_map]
    exact congrArg Tree.table (Table.ofEntries_of_distinct (distinct.map _))

end Node
end Storyboard
