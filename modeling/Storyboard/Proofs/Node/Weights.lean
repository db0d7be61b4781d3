import Mathlib.Algebra.Order.BigOperators.Group.List
import Mathlib.Algebra.Order.Ring.Nat
import Storyboard.Proofs.Node.Parts

/-!
# Weights of nodes

The weight of a node is the sum of what its parts weigh, so a container weighs as much as
what it holds and itself.  The values under distinct keys of a mapping weigh no more than
the mapping, and neither do the events that a payload names for the end of a request.
-/

namespace Storyboard

/-- A list that weighs no more than another, whatever its members weigh, is part of it. -/
theorem subperm_of_sum_le
    {α : Type}
    {items others : List α}
    (lighter : ∀ weight : α → Nat, (items.map weight).sum ≤ (others.map weight).sum) :
    items.Subperm others := by
  classical
  have counted : ∀ (list : List α) (member : α),
      (list.map fun other => if other = member then 1 else 0).sum = list.count member := by
    intro list member
    induction list with
    | nil => rfl
    | cons other rest inductionHypothesis =>
        rw [List.map_cons, List.sum_cons, inductionHypothesis, List.count_cons]
        simp only [beq_iff_eq]
        exact Nat.add_comm _ _
  rw [List.subperm_ext_iff]
  intro member _
  rw [← counted, ← counted]
  exact lighter _

namespace Node

section Total

variable {weight : Node → Nat}

/-- What all parts of a node weigh. -/
def total (weight : Node → Nat) (node : Node) : Nat :=
  (node.parts.map weight).sum

theorem sum_partsOfItems (items : List Node) :
    ((partsOfItems items).map weight).sum = (items.map (total weight)).sum := by
  induction items with
  | nil => rfl
  | cons item rest inductionHypothesis => simp [partsOfItems, total, inductionHypothesis]

theorem sum_partsOfEntries (entries : List (String × Node)) :
    ((partsOfEntries entries).map weight).sum =
      (entries.map fun entry => total weight entry.2).sum := by
  induction entries with
  | nil => rfl
  | cons entry rest inductionHypothesis => simp [partsOfEntries, total, inductionHypothesis]

/-- A sequence weighs as much as itself and its items. -/
theorem total_sequence (items : List Node) :
    total weight (.sequence items) = weight (.sequence items) + (items.map (total weight)).sum := by
  rw [total, parts, List.map_cons, List.sum_cons, sum_partsOfItems]

/-- A mapping weighs as much as itself and its values. -/
theorem total_mapping (entries : List (String × Node)) :
    total weight (.mapping entries) =
      weight (.mapping entries) + (entries.map fun entry => total weight entry.2).sum := by
  rw [total, parts, List.map_cons, List.sum_cons, sum_partsOfEntries]

theorem total_le_of_mem_sequence
    {items : List Node}
    {item : Node}
    (member : item ∈ items) :
    total weight item ≤ total weight (.sequence items) := by
  rw [total_sequence]
  exact Nat.le_trans (List.le_sum_of_mem (List.mem_map_of_mem member)) (Nat.le_add_left _ _)

theorem total_le_of_mem_mapping
    {entries : List (String × Node)}
    {entry : String × Node}
    (member : entry ∈ entries) :
    total weight entry.2 ≤ total weight (.mapping entries) := by
  have among : total weight entry.2 ∈ entries.map fun entry => total weight entry.2 :=
    List.mem_map_of_mem member
  rw [total_mapping]
  exact Nat.le_trans (List.le_sum_of_mem among) (Nat.le_add_left _ _)

/-- What an event weighs, if there is one. -/
def total? (weight : Node → Nat) (event : Option Node) : Nat :=
  event.elim 0 (total weight)

theorem total?_filter_le
    (keep : Node → Bool)
    (event : Option Node) :
    total? weight (event.filter keep) ≤ total? weight event := by
  cases event with
  | none => exact Nat.le_refl _
  | some node =>
      rw [Option.filter_some]
      split
      · exact Nat.le_refl _
      · exact Nat.zero_le _

/-- The value under a key and the other entries weigh as much as all entries. -/
theorem total?_get?_add_sum_erase
    (entries : List (String × Node))
    (key : String) :
    total? weight (Table.get? entries key) +
        ((Table.erase entries key).map fun entry => total weight entry.2).sum =
      (entries.map fun entry => total weight entry.2).sum := by
  induction entries with
  | nil => rfl
  | cons entry rest inductionHypothesis =>
      obtain ⟨name, value⟩ := entry
      rw [Table.get?_cons, Table.erase]
      by_cases same : name = key
      · rw [if_pos same, if_pos same]
        rfl
      · rw [if_neg same, if_neg same, List.map_cons, List.sum_cons, List.map_cons, List.sum_cons,
          ← inductionHypothesis]
        omega

/-- The values under distinct keys weigh no more than all entries. -/
theorem sum_total?_get?_le
    {keys : List String}
    (distinct : keys.Nodup)
    (entries : List (String × Node)) :
    (keys.map fun key => total? weight (Table.get? entries key)).sum ≤
      (entries.map fun entry => total weight entry.2).sum := by
  induction keys generalizing entries with
  | nil => exact Nat.zero_le _
  | cons key rest inductionHypothesis =>
      obtain ⟨fresh, distinctRest⟩ := List.nodup_cons.mp distinct
      have others := inductionHypothesis distinctRest (Table.erase entries key)
      have kept : ∀ other ∈ rest, total? weight (Table.get? (Table.erase entries key) other) =
          total? weight (Table.get? entries other) := by
        intro other member
        have apart : key ≠ other := by
          rintro rfl
          exact fresh member
        rw [Table.get?_erase_of_ne entries apart]
      rw [List.map_congr_left kept] at others
      rw [List.map_cons, List.sum_cons, ← total?_get?_add_sum_erase entries key]
      omega

theorem total?_get?_le
    (entries : List (String × Node))
    (key : String) :
    total? weight (Table.get? entries key) ≤ total weight (.mapping entries) := by
  have among : total? weight (Table.get? entries key) + _ = _ :=
    total?_get?_add_sum_erase entries key
  rw [total_mapping]
  omega

end Total

/-! ## Keys -/

/-- How often a key stands in a node, at any depth. -/
def occurrences (key : String) (node : Node) : Nat :=
  node.total fun part => (Table.keys (Path.entriesOf part)).count key

/-! ## Levels -/

theorem depth_lt_of_mem_sequence
    {items : List Node}
    {item : Node}
    (member : item ∈ items) :
    item.depth < (Node.sequence items).depth := by
  rw [depth]
  induction items with
  | nil => cases member
  | cons first rest inductionHypothesis =>
      rw [depthItems]
      rcases List.mem_cons.mp member with rfl | later
      · omega
      · have := inductionHypothesis later
        omega

theorem depth_lt_of_mem_mapping
    {entries : List (String × Node)}
    {entry : String × Node}
    (member : entry ∈ entries) :
    entry.2.depth < (Node.mapping entries).depth := by
  rw [depth]
  induction entries with
  | nil => cases member
  | cons first rest inductionHypothesis =>
      rw [depthEntries]
      rcases List.mem_cons.mp member with rfl | later
      · omega
      · have := inductionHypothesis later
        omega

end Node
end Storyboard
