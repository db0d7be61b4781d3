import Storyboard.Node.Reader
import Storyboard.Proofs.Decimal.Whole
import Storyboard.Proofs.Node.Layout

/-!
# Nodes read back

A node of whole numbers is read back as an equal one: the entries stand in the same order,
and only the sign of zero is lost.  No node that is read nests more deeply than the reader
allows.
-/

namespace Storyboard
namespace Node

open Json

/-! ## Numbers that are replaced -/

mutual

/-- The node with each number replaced. -/
def mapNumbers (f : Float → Float) : Node → Node
  | .number value => .number (f value)
  | .sequence items => .sequence (mapNumbersItems f items)
  | .mapping entries => .mapping (mapNumbersEntries f entries)
  | node => node

/-- The items with each number replaced. -/
def mapNumbersItems (f : Float → Float) : List Node → List Node
  | [] => []
  | item :: rest => mapNumbers f item :: mapNumbersItems f rest

/-- The entries with each number replaced. -/
def mapNumbersEntries (f : Float → Float) : List (String × Node) → List (String × Node)
  | [] => []
  | (key, value) :: rest => (key, mapNumbers f value) :: mapNumbersEntries f rest

end

section MapNumbers

variable {f : Float → Float}

theorem mapNumbersItems_eq_map (items : List Node) :
    mapNumbersItems f items = items.map (mapNumbers f) := by
  induction items with
  | nil => rfl
  | cons item rest inductionHypothesis => rw [mapNumbersItems, inductionHypothesis, List.map_cons]

theorem mapNumbersEntries_eq_map (entries : List (String × Node)) :
    mapNumbersEntries f entries = entries.map fun entry => (entry.1, mapNumbers f entry.2) := by
  induction entries with
  | nil => rfl
  | cons entry rest inductionHypothesis =>
      rw [mapNumbersEntries, inductionHypothesis, List.map_cons]

theorem mapNumbers_id (node : Node) : node.mapNumbers id = node := by
  induction node using structural with
  | sequence items inductionHypothesis =>
      rw [mapNumbers, mapNumbersItems_eq_map, List.map_congr_left inductionHypothesis]
      simp
  | mapping entries inductionHypothesis =>
      have kept : ∀ entry ∈ entries, (entry.1, mapNumbers id entry.2) = entry := fun entry member =>
        congrArg (Prod.mk entry.1) (inductionHypothesis entry member)
      rw [mapNumbers, mapNumbersEntries_eq_map, List.map_congr_left kept]
      simp
  | null | bool | number | string => rfl

theorem sameItems_map
    {items : List Node}
    (each : ∀ item ∈ items, same item (item.mapNumbers f) = true) :
    sameItems items (items.map (mapNumbers f)) = true := by
  induction items with
  | nil => rfl
  | cons item rest inductionHypothesis =>
      obtain ⟨first, others⟩ := List.forall_mem_cons.mp each
      rw [List.map_cons, sameItems, first, inductionHypothesis others]
      rfl

theorem sameEntries_of_get?
    {entries others : List (String × Node)}
    (each : ∀ entry ∈ entries, ∃ other,
      Table.get? others entry.1 = some other ∧ same entry.2 other = true) :
    sameEntries entries others = true := by
  induction entries with
  | nil => rfl
  | cons entry rest inductionHypothesis =>
      obtain ⟨⟨other, found, agrees⟩, later⟩ := List.forall_mem_cons.mp each
      rw [sameEntries, found, inductionHypothesis later, Bool.and_true]
      exact agrees

/-- A node equals the one in which each number is replaced by an equal one. -/
theorem same_mapNumbers
    {node : Node}
    (equal : node.All fun part => ∀ value, part = .number value → (value == f value) = true)
    (distinct : node.DistinctKeys) :
    same node (node.mapNumbers f) = true := by
  induction node using structural with
  | null => rfl
  | bool value | string value => simp [mapNumbers, same]
  | number value => exact equal.self value rfl
  | sequence items inductionHypothesis =>
      obtain ⟨-, equalItems⟩ := all_sequence_iff.mp equal
      obtain ⟨-, distinctItems⟩ := all_sequence_iff.mp distinct
      rw [mapNumbers, mapNumbersItems_eq_map, same]
      exact sameItems_map fun item member =>
        inductionHypothesis item member (equalItems item member) (distinctItems item member)
  | mapping entries inductionHypothesis =>
      obtain ⟨-, equalEntries⟩ := all_mapping_iff.mp equal
      obtain ⟨distinctHere, distinctEntries⟩ := all_mapping_iff.mp distinct
      rw [mapNumbers, mapNumbersEntries_eq_map, same, List.length_map, beq_self_eq_true,
        Bool.true_and]
      have distinctMapped := Table.Distinct.map distinctHere (mapNumbers f)
      refine sameEntries_of_get? fun entry member => ⟨entry.2.mapNumbers f, ?_, ?_⟩
      · exact Table.get?_eq_some_of_mem distinctMapped (List.mem_map.mpr ⟨entry, member, rfl⟩)
      · exact inductionHypothesis entry member (equalEntries entry member)
          (distinctEntries entry member)

end MapNumbers

/-- A whole number as it is read back, without the sign of zero. -/
def plainNumber (value : Float) : Float :=
  match Decimal.exactInteger? value with
  | some whole => Decimal.ofInteger whole
  | none => value

/-- The numbers of a node are known to be whole exactly if each equals a whole number within the
exact range. -/
theorem wholeNumbers_iff
    {node : Node} :
    node.WholeNumbers ↔ ∀ part ∈ node.parts, ∀ value, part = .number value →
      ∃ whole : Int, whole.natAbs ≤ 2 ^ 53 ∧ (value == Decimal.ofInteger whole) = true := by
  refine forall₂_congr fun part _ => ?_
  cases part with
  | number value =>
      simp only [isWhole, Option.isSome_iff_exists, Decimal.exactInteger?_eq_some_iff,
        Decimal.exactLimit, Nat.pow_eq]
      exact ⟨fun known _ same => by cases same; exact known, fun known => known value rfl⟩
  | _ => exact iff_of_true rfl fun _ same => by cases same

theorem same_mapNumbers_plainNumber
    {node : Node}
    (whole : node.WholeNumbers)
    (distinct : node.DistinctKeys) :
    same node (node.mapNumbers plainNumber) = true := by
  refine same_mapNumbers (whole.mono ?_) distinct
  rintro part known value rfl
  obtain ⟨number, exact⟩ := Option.isSome_iff_exists.mp known
  rw [plainNumber, exact]
  exact Decimal.beq_ofInteger exact

/-- A node of whole numbers equals itself. -/
theorem same_self
    {node : Node}
    (whole : node.WholeNumbers)
    (distinct : node.DistinctKeys) :
    same node node = true := by
  have equal := same_mapNumbers (f := id) (whole.mono ?_) distinct
  · rwa [mapNumbers_id] at equal
  rintro part known value rfl
  obtain ⟨number, exact⟩ := Option.isSome_iff_exists.mp known
  exact Decimal.beq_self_of_exactInteger? exact

/-! ## Reading -/

/-- The whole number that a double equals is read as it was written. -/
theorem number_of_exactInteger?
    {value : Float}
    {whole : Int}
    {rest : List Char}
    (exact : Decimal.exactInteger? value = some whole)
    (ends : EndsNumber rest) :
    Json.number (Decimal.intChars whole ++ rest) = .ok (.integer whole, rest) := by
  have bound : whole.natAbs ≤ 2 ^ 53 := Decimal.natAbs_le_of_exactInteger? exact
  have low : -(2 ^ 63 : Int) ≤ whole := by omega
  have high : whole < (2 ^ 64 : Int) := by omega
  exact number_intChars low high ends

/-- What is read of a node's text is the node with its whole numbers plain. -/
theorem makes_plainNumber : builder.Makes (mapNumbers plainNumber) where
  null := rfl
  bool _ := rfl
  number value whole rest exact ends := by
    simp only [builder, number_of_exactInteger? exact ends, mapValue, mapNumbers, plainNumber,
      exact, Number.toFloat]
  text value rest := by
    simp only [builder, quoted_written, mapValue, mapNumbers]
  key := quoted_written
  list items := by
    rw [mapNumbers, mapNumbersItems_eq_map]
    rfl
  table entries distinct := by
    rw [mapNumbers, mapNumbersEntries_eq_map]
    exact congrArg Node.mapping (Table.ofEntries_of_distinct (distinct.map _))

theorem depthItems_le_iff
    {items : List Node}
    {limit : Nat} :
    depthItems items ≤ limit ↔ ∀ item ∈ items, item.depth ≤ limit := by
  induction items with
  | nil => simp [depthItems]
  | cons item rest inductionHypothesis =>
      rw [depthItems, Nat.max_le, inductionHypothesis, List.forall_mem_cons]

theorem depthEntries_le_iff
    {entries : List (String × Node)}
    {limit : Nat} :
    depthEntries entries ≤ limit ↔ ∀ entry ∈ entries, entry.2.depth ≤ limit := by
  induction entries with
  | nil => simp [depthEntries]
  | cons entry rest inductionHypothesis =>
      rw [depthEntries, Nat.max_le, inductionHypothesis, List.forall_mem_cons]

theorem depthEntries_lt_iff
    {entries : List (String × Node)}
    {limit : Nat}
    (positive : 0 < limit) :
    depthEntries entries < limit ↔ ∀ entry ∈ entries, entry.2.depth < limit := by
  obtain ⟨lower, rfl⟩ := Nat.exists_eq_succ_of_ne_zero (Nat.ne_of_gt positive)
  simp only [Nat.lt_succ_iff]
  exact depthEntries_le_iff

/-- The limit on nesting holds of every node that is read. -/
theorem keeps_depth : builder.Keeps fun limit node => node.depth ≤ limit where
  null _ := Nat.zero_le _
  bool _ _ := Nat.zero_le _
  number _ _ _ _ read := by
    obtain ⟨_, -, rfl⟩ := exists_of_mapValue_eq_ok read
    exact Nat.zero_le _
  text _ _ _ _ read := by
    obtain ⟨_, -, rfl⟩ := exists_of_mapValue_eq_ok read
    exact Nat.zero_le _
  list _ _ each := Nat.succ_le_succ (depthItems_le_iff.mpr each)
  table limit entries each := by
    refine Nat.succ_le_succ (depthEntries_le_iff.mpr fun entry member => ?_)
    exact each entry (Table.mem_of_mem_ofEntries member)

end Node
end Storyboard
