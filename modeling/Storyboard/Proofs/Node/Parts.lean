import Mathlib.Data.List.Perm.Subperm
import Storyboard.Path.Access
import Storyboard.Proofs.Table

/-!
# The parts of a node

The parts of a node are the node itself and the parts of everything that it holds.  What
holds of every part of a node holds of every part of what a path finds in it.  Nodes that
are structurally equal hold the same texts under the same keys.
-/

namespace Storyboard
namespace Node

/-- A property of nodes that containers have when all that they hold has it is a property of every
node. -/
theorem structural
    {motive : Node → Prop}
    (null : motive .null)
    (bool : ∀ value, motive (.bool value))
    (number : ∀ value, motive (.number value))
    (string : ∀ value, motive (.string value))
    (sequence : ∀ items, (∀ item ∈ items, motive item) → motive (.sequence items))
    (mapping : ∀ entries, (∀ entry ∈ entries, motive entry.2) → motive (.mapping entries))
    (node : Node) :
    motive node :=
  @Node.rec motive (fun items => ∀ item ∈ items, motive item)
    (fun entries => ∀ entry ∈ entries, motive entry.2) (fun entry => motive entry.2)
    null bool number string sequence mapping
    nofun
    (fun _ _ first others _ member => by
      rcases List.mem_cons.mp member with rfl | later
      · exact first
      · exact others _ later)
    nofun
    (fun _ _ first others _ member => by
      rcases List.mem_cons.mp member with rfl | later
      · exact first
      · exact others _ later)
    (fun _ _ value => value)
    node

/-- Whether the node holds no others. -/
def isScalar : Node → Bool
  | .sequence _ => false
  | .mapping _ => false
  | _ => true

mutual

/-- The node and the parts of what it holds. -/
def parts : Node → List Node
  | .sequence items => .sequence items :: partsOfItems items
  | .mapping entries => .mapping entries :: partsOfEntries entries
  | node => [node]

/-- The parts of items. -/
def partsOfItems : List Node → List Node
  | [] => []
  | item :: rest => parts item ++ partsOfItems rest

/-- The parts of the values of entries. -/
def partsOfEntries : List (String × Node) → List Node
  | [] => []
  | (_, value) :: rest => parts value ++ partsOfEntries rest

end

theorem partsOfItems_eq_flatMap (items : List Node) : partsOfItems items = items.flatMap parts := by
  induction items with
  | nil => rfl
  | cons item rest inductionHypothesis =>
      rw [partsOfItems, inductionHypothesis, List.flatMap_cons]

theorem partsOfEntries_eq_flatMap (entries : List (String × Node)) :
    partsOfEntries entries = entries.flatMap fun entry => parts entry.2 := by
  induction entries with
  | nil => rfl
  | cons entry rest inductionHypothesis =>
      rw [partsOfEntries, inductionHypothesis, List.flatMap_cons]

theorem mem_partsOfItems
    {part : Node}
    {items : List Node} :
    part ∈ partsOfItems items ↔ ∃ item ∈ items, part ∈ item.parts := by
  rw [partsOfItems_eq_flatMap, List.mem_flatMap]

theorem mem_partsOfEntries
    {part : Node}
    {entries : List (String × Node)} :
    part ∈ partsOfEntries entries ↔ ∃ entry ∈ entries, part ∈ entry.2.parts := by
  rw [partsOfEntries_eq_flatMap, List.mem_flatMap]

theorem parts_of_isScalar
    {node : Node}
    (scalar : node.isScalar = true) :
    node.parts = [node] := by
  cases node <;> first | rfl | cases scalar

theorem mem_parts_sequence
    {part : Node}
    {items : List Node} :
    part ∈ (Node.sequence items).parts ↔
      part = .sequence items ∨ ∃ item ∈ items, part ∈ item.parts := by
  rw [parts, List.mem_cons, mem_partsOfItems]

theorem mem_parts_mapping
    {part : Node}
    {entries : List (String × Node)} :
    part ∈ (Node.mapping entries).parts ↔
      part = .mapping entries ∨ ∃ entry ∈ entries, part ∈ entry.2.parts := by
  rw [parts, List.mem_cons, mem_partsOfEntries]

theorem mem_parts_self (node : Node) : node ∈ node.parts := by
  cases node <;> exact List.mem_cons_self

/-- An item of a sequence is a part of it. -/
theorem mem_parts_of_mem_sequence
    {item : Node}
    {items : List Node}
    (member : item ∈ items) :
    item ∈ (Node.sequence items).parts :=
  mem_parts_sequence.mpr (.inr ⟨item, member, mem_parts_self item⟩)

/-- A value of a mapping is a part of it. -/
theorem mem_parts_of_mem_mapping
    {entry : String × Node}
    {entries : List (String × Node)}
    (member : entry ∈ entries) :
    entry.2 ∈ (Node.mapping entries).parts :=
  mem_parts_mapping.mpr (.inr ⟨entry, member, mem_parts_self entry.2⟩)

/-- A part of a part is a part. -/
theorem mem_parts_trans
    {node part inner : Node}
    (isPart : part ∈ node.parts)
    (isInner : inner ∈ part.parts) :
    inner ∈ node.parts := by
  induction node using structural with
  | sequence items inductionHypothesis =>
      rcases mem_parts_sequence.mp isPart with rfl | ⟨item, member, within⟩
      · exact isInner
      · exact mem_parts_sequence.mpr (.inr ⟨item, member, inductionHypothesis item member within⟩)
  | mapping entries inductionHypothesis =>
      rcases mem_parts_mapping.mp isPart with rfl | ⟨entry, member, within⟩
      · exact isInner
      · exact mem_parts_mapping.mpr
          (.inr ⟨entry, member, inductionHypothesis entry member within⟩)
  | _ =>
      obtain rfl := List.mem_singleton.mp isPart
      exact isInner

/-- What a path finds in a node is a part of it. -/
theorem mem_parts_of_walk?
    {path : Path}
    {node value : Node}
    (found : Path.walk? path node = some value) :
    value ∈ node.parts := by
  fun_induction Path.walk? path node with
  | case1 =>
      cases found
      exact mem_parts_self _
  | case2 position rest items item here inductionHypothesis =>
      exact mem_parts_sequence.mpr
        (.inr ⟨item, List.mem_of_getElem? here, inductionHypothesis found⟩)
  | case4 name rest entries child here inductionHypothesis
  | case6 name rest entries child here inductionHypothesis =>
      exact mem_parts_mapping.mpr
        (.inr ⟨(name, child), Table.mem_of_get?_eq_some here, inductionHypothesis found⟩)
  | _ => cases found

/-! ## Properties of all parts -/

/-- Every part of the node has a property. -/
def All (property : Node → Prop) (node : Node) : Prop :=
  ∀ part ∈ node.parts, property part

instance {property : Node → Prop} [DecidablePred property] : DecidablePred (All property) :=
  fun node => inferInstanceAs (Decidable (∀ part ∈ node.parts, property part))

section All

variable {property : Node → Prop}

theorem All.self
    {node : Node}
    (all : node.All property) :
    property node :=
  all node (mem_parts_self node)

theorem All.part
    {node part : Node}
    (all : node.All property)
    (isPart : part ∈ node.parts) :
    part.All property :=
  fun inner isInner => all inner (mem_parts_trans isPart isInner)

theorem All.mono
    {stronger : Node → Prop}
    {node : Node}
    (all : node.All stronger)
    (implies : ∀ part, stronger part → property part) :
    node.All property :=
  fun part isPart => implies part (all part isPart)

theorem all_of_isScalar
    {node : Node}
    (scalar : node.isScalar = true)
    (holds : property node) :
    node.All property := by
  intro part isPart
  rw [parts_of_isScalar scalar] at isPart
  exact List.mem_singleton.mp isPart ▸ holds

theorem all_sequence_iff
    {items : List Node} :
    (Node.sequence items).All property ↔
      property (.sequence items) ∧ ∀ item ∈ items, item.All property := by
  constructor
  · exact fun all => ⟨all.self, fun _ member => all.part (mem_parts_of_mem_sequence member)⟩
  · rintro ⟨self, items⟩ part isPart
    rcases mem_parts_sequence.mp isPart with rfl | ⟨item, member, within⟩
    · exact self
    · exact items item member part within

theorem all_mapping_iff
    {entries : List (String × Node)} :
    (Node.mapping entries).All property ↔
      property (.mapping entries) ∧ ∀ entry ∈ entries, entry.2.All property := by
  constructor
  · exact fun all => ⟨all.self, fun _ member => all.part (mem_parts_of_mem_mapping member)⟩
  · rintro ⟨self, entries⟩ part isPart
    rcases mem_parts_mapping.mp isPart with rfl | ⟨entry, member, within⟩
    · exact self
    · exact entries entry member part within

end All

/-! ## Structurally equal nodes -/

/-- No mapping among the parts has a key twice. -/
def DistinctKeys (node : Node) : Prop :=
  node.All fun part => Table.Distinct (Path.entriesOf part)

instance : DecidablePred DistinctKeys :=
  fun node => inferInstanceAs (Decidable (node.All fun part => Table.Distinct (Path.entriesOf part)))

theorem exists_same_of_sameItems
    {items others : List Node}
    (equal : sameItems items others = true)
    {other : Node}
    (member : other ∈ others) :
    ∃ item ∈ items, same item other = true := by
  induction items generalizing others with
  | nil =>
      cases others with
      | nil => cases member
      | cons _ _ => cases equal
  | cons item rest inductionHypothesis =>
      cases others with
      | nil => cases member
      | cons first others =>
          obtain ⟨here, later⟩ : same item first = true ∧ sameItems rest others = true := by
            simpa [sameItems] using equal
          rcases List.mem_cons.mp member with rfl | inOthers
          · exact ⟨item, List.mem_cons_self, here⟩
          · obtain ⟨found, inRest, equal⟩ := inductionHypothesis later inOthers
            exact ⟨found, List.mem_cons_of_mem item inRest, equal⟩

theorem exists_get?_of_sameEntries
    {entries others : List (String × Node)}
    (equal : sameEntries entries others = true)
    {key : String}
    {value : Node}
    (member : (key, value) ∈ entries) :
    ∃ other, Table.get? others key = some other ∧ same value other = true := by
  induction entries with
  | nil => cases member
  | cons entry rest inductionHypothesis =>
      obtain ⟨name, first⟩ := entry
      rw [sameEntries, Bool.and_eq_true] at equal
      rcases List.mem_cons.mp member with isFirst | later
      · cases isFirst
        cases found : Table.get? others key with
        | none => simp [found] at equal
        | some other => exact ⟨other, rfl, by simpa [found] using equal.1⟩
      · exact inductionHypothesis equal.2 later

/-- Of mappings that are structurally equal, each has every key of the other. -/
theorem exists_entry_of_same
    {entries others : List (String × Node)}
    (equal : same (.mapping entries) (.mapping others) = true)
    (distinct : Table.Distinct entries)
    (distinctOthers : Table.Distinct others)
    {key : String}
    {other : Node}
    (member : (key, other) ∈ others) :
    ∃ value, (key, value) ∈ entries ∧ same value other = true := by
  obtain ⟨lengths, found⟩ : entries.length = others.length ∧
      sameEntries entries others = true := by
    simpa [same] using equal
  have within : Table.keys entries ⊆ Table.keys others := by
    intro name isKey
    obtain ⟨value, isValue⟩ := Table.exists_get?_of_mem_keys isKey
    obtain ⟨partner, here, -⟩ :=
      exists_get?_of_sameEntries found (Table.mem_of_get?_eq_some isValue)
    exact Table.mem_keys_of_get?_eq_some here
  have perm : (Table.keys entries).Perm (Table.keys others) :=
    (List.subperm_of_subset distinct within).perm_of_length_le (by simp [Table.keys, lengths])
  have isKey : key ∈ Table.keys entries :=
    perm.symm.subset (List.mem_map.mpr ⟨(key, other), member, rfl⟩)
  obtain ⟨value, isValue⟩ := Table.exists_get?_of_mem_keys isKey
  have isEntry := Table.mem_of_get?_eq_some isValue
  obtain ⟨partner, here, agrees⟩ := exists_get?_of_sameEntries found isEntry
  rw [Table.get?_eq_some_of_mem distinctOthers member] at here
  cases here
  exact ⟨value, isEntry, agrees⟩

/-- A text equals no other node. -/
theorem eq_string_of_same
    {node : Node}
    {text : String}
    (equal : same node (.string text) = true) :
    node = .string text := by
  cases node with
  | string value => simpa [same] using equal
  | _ => simp [same] at equal

/-- A node that equals a mapping of one value under one key is another such mapping. -/
theorem exists_of_same_single
    {node value : Node}
    {key : String}
    (equal : same node (.mapping [(key, value)]) = true) :
    ∃ other, node = .mapping [(key, other)] ∧ same other value = true := by
  cases node with
  | mapping entries =>
      obtain ⟨length, found⟩ : entries.length = 1 ∧ sameEntries entries [(key, value)] = true := by
        simpa [same] using equal
      obtain ⟨⟨name, other⟩, rfl⟩ := List.length_eq_one_iff.mp length
      obtain ⟨partner, here, agrees⟩ := exists_get?_of_sameEntries found List.mem_cons_self
      rw [Table.get?_cons] at here
      split at here
      · next isKey =>
          cases here
          exact ⟨other, by rw [isKey], agrees⟩
      · cases here
  | _ => simp [same] at equal

/-- Nodes that are structurally equal have the same parts of one text under one key. -/
theorem single_mem_parts_of_same
    {node other : Node}
    (equal : same node other = true)
    (distinct : node.DistinctKeys)
    (distinctOther : other.DistinctKeys)
    {key text : String}
    (isPart : Node.mapping [(key, .string text)] ∈ other.parts) :
    Node.mapping [(key, .string text)] ∈ node.parts := by
  induction node using structural generalizing other with
  | sequence items inductionHypothesis =>
      cases other with
      | sequence others =>
          rcases mem_parts_sequence.mp isPart with impossible | ⟨item, member, within⟩
          · cases impossible
          · obtain ⟨partner, isItem, agrees⟩ :=
              exists_same_of_sameItems (by simpa [same] using equal) member
            exact mem_parts_sequence.mpr (.inr ⟨partner, isItem,
              inductionHypothesis partner isItem agrees ((all_sequence_iff.mp distinct).2 _ isItem)
                ((all_sequence_iff.mp distinctOther).2 _ member) within⟩)
      | _ => simp [same] at equal
  | mapping entries inductionHypothesis =>
      cases other with
      | mapping others =>
          rcases mem_parts_mapping.mp isPart with isSelf | ⟨⟨name, value⟩, member, within⟩
          · rw [← isSelf] at equal
            obtain ⟨other, isNode, agrees⟩ := exists_of_same_single equal
            rw [isNode, eq_string_of_same agrees]
            exact mem_parts_self _
          · obtain ⟨partner, isEntry, agrees⟩ :=
              exists_entry_of_same equal distinct.self distinctOther.self member
            exact mem_parts_mapping.mpr (.inr ⟨_, isEntry,
              inductionHypothesis _ isEntry agrees ((all_mapping_iff.mp distinct).2 _ isEntry)
                ((all_mapping_iff.mp distinctOther).2 _ member) within⟩)
      | _ => simp [same] at equal
  | _ =>
      cases other with
      | sequence _ | mapping _ => simp [same] at equal
      | _ => simp [parts] at isPart

end Node
end Storyboard
