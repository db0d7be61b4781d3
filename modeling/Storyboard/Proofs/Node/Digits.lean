import Storyboard.Proofs.Node.Texts
import Storyboard.Proofs.Node.Trees

/-!
# Nodes with numbers that JSON lacks

JSON has no numbers for infinities and for what is not a number.  A node has a tree unless such a
number is among its parts, and then the first of them is told.  The text of a node exists in any
case: it is the text of the tree, or that of the node in which `null` stands for these numbers.
-/

namespace Storyboard
namespace Node

open Decimal (lacksDigits)

/-! ## `null` for what is refused -/

mutual

/-- The node with `null` for each number that lacks digits. -/
def blanked : Node → Node
  | .number value => if lacksDigits value then .null else .number value
  | .sequence items => .sequence (blankedItems items)
  | .mapping entries => .mapping (blankedEntries entries)
  | node => node

/-- The items with `null` for each number that lacks digits. -/
def blankedItems : List Node → List Node
  | [] => []
  | item :: rest => blanked item :: blankedItems rest

/-- The entries with `null` for each number that lacks digits. -/
def blankedEntries : List (String × Node) → List (String × Node)
  | [] => []
  | (key, value) :: rest => (key, blanked value) :: blankedEntries rest

end

theorem blankedItems_eq_map (items : List Node) : blankedItems items = items.map blanked := by
  induction items with
  | nil => rfl
  | cons item rest inductionHypothesis => rw [blankedItems, inductionHypothesis, List.map_cons]

theorem blankedEntries_eq_map (entries : List (String × Node)) :
    blankedEntries entries = entries.map fun entry => (entry.1, blanked entry.2) := by
  induction entries with
  | nil => rfl
  | cons entry rest inductionHypothesis =>
      rw [blankedEntries, inductionHypothesis, List.map_cons]

/-- A number that lacks digits is written as `null` is. -/
theorem compact_blanked (node : Node) : node.blanked.compact = node.compact := by
  induction node using structural with
  | null | bool value | string value => rfl
  | number value =>
      cases lacks : lacksDigits value with
      | false => rw [blanked, lacks, if_neg Bool.false_ne_true]
      | true =>
          have notWhole : Decimal.exactInteger? value = none := by
            rw [Option.eq_none_iff_forall_ne_some]
            intro whole exact
            rw [Decimal.lacksDigits_of_exactInteger? exact] at lacks
            cases lacks
          rw [blanked, if_pos lacks, compact, compact, Decimal.interchangeChars, notWhole]
          simp only [Decimal.isFinite_eq, lacks]
          rfl
  | sequence items inductionHypothesis =>
      rw [blanked, blankedItems_eq_map]
      refine compact_sequence_congr ?_
      rw [List.map_map]
      exact List.map_congr_left inductionHypothesis
  | mapping entries inductionHypothesis =>
      rw [blanked, blankedEntries_eq_map]
      refine compact_mapping_congr ?_
      rw [List.map_map]
      exact List.map_congr_left fun entry member =>
        congrArg (Prod.mk entry.1) (inductionHypothesis entry member)

/-- With `null` for the numbers that lack digits, no such number is left. -/
theorem finiteNumbers_blanked (node : Node) : node.blanked.FiniteNumbers := by
  induction node using structural with
  | null | bool value | string value => exact all_of_isScalar rfl rfl
  | number value =>
      cases lacks : lacksDigits value with
      | false =>
          rw [blanked, lacks, if_neg Bool.false_ne_true]
          exact all_of_isScalar rfl (hasDigits_number_iff.mpr (Bool.eq_false_iff.mp lacks))
      | true =>
          rw [blanked, if_pos lacks]
          exact all_of_isScalar rfl rfl
  | sequence items inductionHypothesis =>
      rw [blanked, blankedItems_eq_map]
      refine all_sequence_iff.mpr ⟨rfl, ?_⟩
      exact List.forall_mem_map.mpr inductionHypothesis
  | mapping entries inductionHypothesis =>
      rw [blanked, blankedEntries_eq_map]
      refine all_mapping_iff.mpr ⟨rfl, ?_⟩
      exact List.forall_mem_map.mpr inductionHypothesis

/--
The tree of a node is refused exactly if some number in it is not a number or infinite, and it is
refused for the first of these.  Otherwise the tree is written as the node is, which is also the
text of a container for readers.  In any case the node is written as the one with `null` for all
these numbers, which has a tree that is written so.
-/
theorem toTree_refuses_exactly (node : Node) :
    ((∃ value, node.toTree = .error value) ↔
      ∃ value ∈ node.numbers, value.isNaN = true ∨ value.isInf = true) ∧
    (∀ value, node.toTree = .error value ↔
      node.numbers.find? (fun value => value.isNaN || value.isInf) = some value) ∧
    (∀ tree, node.toTree = .ok tree →
      tree.render = node.render ∧ (node.isScalar = false → tree.render = node.display)) ∧
    (node.render = node.blanked.render ∧
      ∃ tree, node.blanked.toTree = .ok tree ∧ tree.render = node.render) := by
  have finite := finiteNumbers_blanked node
  have text : node.render = node.blanked.render := congrArg String.ofList (compact_blanked node).symm
  refine ⟨?_, fun _ => toTree_eq_error_iff, ?_, text, node.blanked.tree,
    toTree_eq_ok finite, (render_tree finite).trans text.symm⟩
  · simp only [toTree_eq_error_iff, ← Option.isSome_iff_exists, lacking?, List.find?_isSome,
      lacksDigits, Bool.or_eq_true]
  · intro tree made
    obtain ⟨digits, rfl⟩ := toTree_eq_ok_iff.mp made
    refine ⟨render_tree digits, fun container => (render_tree digits).trans ?_⟩
    cases node with
    | sequence _ | mapping _ => rfl
    | _ => cases container

end Node
end Storyboard
