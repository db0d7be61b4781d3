import Storyboard.Proofs.Json.Quotation
import Storyboard.Proofs.Node.Decoding
import Storyboard.Proofs.Node.Sameness

/-!
# Texts of equal nodes

Nodes that are structurally equal have the same numbers, texts and keys, so all that their
texts can differ in is the order of the keys.  They have the same text exactly if the keys
stand in the same order, at every depth.
-/

namespace Storyboard

namespace Decimal

variable {x y : Float}

/-- Equal doubles are written alike: the sign of zero is not. -/
theorem interchangeChars_of_beq (equal : (x == y) = true) :
    interchangeChars x = interchangeChars y := by
  obtain ⟨-, -, rfl | ⟨rfl, rfl⟩ | ⟨rfl, rfl⟩⟩ := Float.beq_iff_ne_nan_and_eq.mp equal
  · rfl
  · decide +kernel
  · decide +kernel

theorem displayChars_of_beq (equal : (x == y) = true) : displayChars x = displayChars y := by
  obtain ⟨-, -, rfl | ⟨rfl, rfl⟩ | ⟨rfl, rfl⟩⟩ := Float.beq_iff_ne_nan_and_eq.mp equal
  · rfl
  · decide +kernel
  · decide +kernel

end Decimal

namespace Json

/-- What follows a text between quotes is known from the whole, and so is the text. -/
theorem writtenText_append_inj
    {text other : String}
    {rest others : List Char}
    (equal : writtenText text ++ rest = writtenText other ++ others) :
    text = other ∧ rest = others := by
  have split : ∀ (text : String) (rest : List Char),
      writtenText text ++ rest = '"' :: (text.toList.flatMap writtenChar ++ '"' :: rest) := by
    simp [writtenText]
  rw [split, split] at equal
  have read := congrArg quoted (List.cons.inj equal).2
  rw [quoted_written, quoted_written] at read
  exact Prod.mk.inj (Except.ok.inj read)

end Json

namespace Node

open Json

/-! ## Lists and mappings entry by entry -/

theorem keyOrders_sequence (items : List Node) :
    (Node.sequence items).keyOrders = [] :: items.flatMap keyOrders := by
  rw [keyOrders, parts, partsOfItems_eq_flatMap, List.map_cons, List.map_flatMap]
  rfl

theorem keyOrders_mapping (entries : List (String × Node)) :
    (Node.mapping entries).keyOrders =
      Table.keys entries :: entries.flatMap fun entry => entry.2.keyOrders := by
  rw [keyOrders, parts, partsOfEntries_eq_flatMap, List.map_cons, List.map_flatMap]
  rfl

theorem compactItems_eq_flatMap (items : List Node) :
    compactItems items = items.flatMap (fun item => ',' :: compact item) ++ [']'] := by
  induction items with
  | nil => rfl
  | cons item rest inductionHypothesis => simp [compactItems, inductionHypothesis]

theorem compactEntries_eq_flatMap (entries : List (String × Node)) :
    compactEntries entries =
      entries.flatMap (fun entry => ',' :: (writtenText entry.1 ++ ':' :: compact entry.2)) ++
        ['}'] := by
  induction entries with
  | nil => rfl
  | cons entry rest inductionHypothesis => simp [compactEntries, inductionHypothesis]

/-- The text of a sequence is made of the texts of its items. -/
theorem compact_sequence_congr
    {items others : List Node}
    (texts : items.map compact = others.map compact) :
    (Node.sequence items).compact = (Node.sequence others).compact := by
  cases items with
  | nil => rw [List.map_eq_nil_iff.mp texts.symm]
  | cons item rest =>
      cases others with
      | nil => cases texts
      | cons other others =>
          obtain ⟨first, later⟩ := List.cons.inj texts
          have behind := congrArg (List.flatMap (',' :: ·)) later
          rw [List.flatMap_map, List.flatMap_map] at behind
          rw [compact, compact, first, compactItems_eq_flatMap, compactItems_eq_flatMap, behind]

/-- The text of a mapping is made of its keys and the texts of its values. -/
theorem compact_mapping_congr
    {entries others : List (String × Node)}
    (texts : (entries.map fun entry => (entry.1, compact entry.2)) =
      others.map fun entry => (entry.1, compact entry.2)) :
    (Node.mapping entries).compact = (Node.mapping others).compact := by
  cases entries with
  | nil => rw [List.map_eq_nil_iff.mp texts.symm]
  | cons entry rest =>
      cases others with
      | nil => cases texts
      | cons other others =>
          obtain ⟨first, later⟩ := List.cons.inj texts
          obtain ⟨key, value⟩ := Prod.mk.inj first
          have behind := congrArg
            (List.flatMap fun entry => ',' :: (writtenText entry.1 ++ ':' :: entry.2)) later
          rw [List.flatMap_map, List.flatMap_map] at behind
          rw [compact, compact, key, value, compactEntries_eq_flatMap, compactEntries_eq_flatMap,
            behind]

theorem same_sequence_cons
    {item other : Node}
    {items others : List Node} :
    same (.sequence (item :: items)) (.sequence (other :: others)) = true ↔
      same item other = true ∧ same (.sequence items) (.sequence others) = true := by
  rw [same, sameItems, Bool.and_eq_true, same]

/-- Equal mappings with the same first key have equal first values, and the others are equal. -/
theorem same_mapping_cons
    {key : String}
    {value other : Node}
    {entries others : List (String × Node)}
    (equal : same (.mapping ((key, value) :: entries)) (.mapping ((key, other) :: others)) = true)
    (distinct : Table.Distinct ((key, value) :: entries)) :
    same value other = true ∧ same (.mapping entries) (.mapping others) = true := by
  obtain ⟨lengths, each⟩ := same_mapping_iff.mp equal
  obtain ⟨⟨found, isFirst, agrees⟩, later⟩ := List.forall_mem_cons.mp each
  rw [Table.get?_cons, if_pos rfl] at isFirst
  cases isFirst
  refine ⟨agrees, same_mapping_iff.mpr ⟨Nat.succ.inj lengths, fun entry member => ?_⟩⟩
  have apart : key ≠ entry.1 := by
    rintro rfl
    exact (List.nodup_cons.mp distinct).1 (List.mem_map.mpr ⟨entry, member, rfl⟩)
  obtain ⟨value, isValue, agreesLater⟩ := later entry member
  rw [Table.get?_cons, if_neg apart] at isValue
  exact ⟨value, isValue, agreesLater⟩

theorem distinctKeys_sequence_cons
    {item : Node}
    {items : List Node} :
    (Node.sequence (item :: items)).DistinctKeys ↔
      item.DistinctKeys ∧ (Node.sequence items).DistinctKeys := by
  simp only [DistinctKeys, all_sequence_iff, List.forall_mem_cons]
  constructor
  · exact fun ⟨here, first, rest⟩ => ⟨first, here, rest⟩
  · exact fun ⟨first, here, rest⟩ => ⟨here, first, rest⟩

theorem DistinctKeys.of_mapping_cons
    {entry : String × Node}
    {entries : List (String × Node)}
    (distinct : (Node.mapping (entry :: entries)).DistinctKeys) :
    entry.2.DistinctKeys ∧ (Node.mapping entries).DistinctKeys := by
  obtain ⟨here, values⟩ := all_mapping_iff.mp distinct
  obtain ⟨first, rest⟩ := List.forall_mem_cons.mp values
  exact ⟨first, all_mapping_iff.mpr ⟨(List.nodup_cons.mp here).2, rest⟩⟩

/-! ## What one reading of a node tells about another -/

/-- One reading of the node tells where it ends, and decides another reading, among the nodes that
are structurally equal. -/
def Determines {α β : Type} (read : Node → List α) (told : Node → β) (node : Node) : Prop :=
  ∀ (other : Node) (rest others : List α), same node other = true → node.DistinctKeys →
    other.DistinctKeys → read node ++ rest = read other ++ others →
      told node = told other ∧ rest = others

/-- Scalars that are equal are written alike. -/
theorem compact_and_display_of_same
    {node other : Node}
    (scalar : node.isScalar = true)
    (equal : same node other = true) :
    other.isScalar = true ∧ node.compact = other.compact ∧ node.display = other.display := by
  cases node with
  | null =>
      cases other with
      | null => exact ⟨rfl, rfl, rfl⟩
      | _ => cases equal
  | bool value =>
      cases other with
      | bool other =>
          obtain rfl : value = other := beq_iff_eq.mp equal
          exact ⟨rfl, rfl, rfl⟩
      | _ => cases equal
  | number value =>
      cases other with
      | number other =>
          exact ⟨rfl, Decimal.interchangeChars_of_beq equal,
            congrArg String.ofList (Decimal.displayChars_of_beq equal)⟩
      | _ => cases equal
  | string value =>
      cases other with
      | string other =>
          obtain rfl : value = other := beq_iff_eq.mp equal
          exact ⟨rfl, rfl, rfl⟩
      | _ => cases equal
  | sequence items => cases scalar
  | mapping entries => cases scalar

theorem keyOrders_of_isScalar
    {node : Node}
    (scalar : node.isScalar = true) :
    node.keyOrders = [[]] := by
  rw [keyOrders, parts_of_isScalar scalar]
  cases node <;> first | rfl | cases scalar

theorem determines_of_isScalar
    {node : Node}
    (scalar : node.isScalar = true) :
    node.Determines keyOrders compact ∧ node.Determines compact keyOrders := by
  constructor
  · intro other rest others equal _ _ orders
    obtain ⟨scalarOther, text, -⟩ := compact_and_display_of_same scalar equal
    rw [keyOrders_of_isScalar scalar, keyOrders_of_isScalar scalarOther] at orders
    exact ⟨text, List.append_cancel_left orders⟩
  · intro other rest others equal _ _ texts
    obtain ⟨scalarOther, text, -⟩ := compact_and_display_of_same scalar equal
    rw [text] at texts
    exact ⟨by rw [keyOrders_of_isScalar scalar, keyOrders_of_isScalar scalarOther],
      List.append_cancel_left texts⟩

/-- What is read of equal lists one item after another tells where each item ends. -/
theorem map_told_of_flatMap
    {α β : Type}
    {read : Node → List α}
    {told : Node → β}
    {items : List Node}
    (each : ∀ item ∈ items, item.Determines read told)
    {others : List Node}
    (equal : same (.sequence items) (.sequence others) = true)
    (distinct : (Node.sequence items).DistinctKeys)
    (distinctOthers : (Node.sequence others).DistinctKeys)
    {rest behind : List α}
    (readings : items.flatMap read ++ rest = others.flatMap read ++ behind) :
    items.map told = others.map told ∧ rest = behind := by
  induction items generalizing others with
  | nil =>
      cases others with
      | nil => exact ⟨rfl, readings⟩
      | cons _ _ => cases equal
  | cons item items inductionHypothesis =>
      cases others with
      | nil => cases equal
      | cons other others =>
          obtain ⟨first, later⟩ := List.forall_mem_cons.mp each
          obtain ⟨here, equalLater⟩ := same_sequence_cons.mp equal
          obtain ⟨distinctHere, distinctLater⟩ := distinctKeys_sequence_cons.mp distinct
          obtain ⟨distinctOther, distinctBehind⟩ := distinctKeys_sequence_cons.mp distinctOthers
          rw [List.flatMap_cons, List.flatMap_cons, List.append_assoc, List.append_assoc]
            at readings
          obtain ⟨telling, remaining⟩ := first other _ _ here distinctHere distinctOther readings
          obtain ⟨tellings, ends⟩ :=
            inductionHypothesis later equalLater distinctLater distinctBehind remaining
          exact ⟨by rw [List.map_cons, List.map_cons, telling, tellings], ends⟩

/-! ## From the order of the keys to the text -/

/-- Where equal mappings have their keys in the same order, what is read of their values tells where
each value ends. -/
theorem map_compact_of_keyOrders
    {entries : List (String × Node)}
    (each : ∀ entry ∈ entries, entry.2.Determines keyOrders compact)
    {others : List (String × Node)}
    (keys : Table.keys entries = Table.keys others)
    (equal : same (.mapping entries) (.mapping others) = true)
    (distinct : (Node.mapping entries).DistinctKeys)
    (distinctOthers : (Node.mapping others).DistinctKeys)
    {rest behind : List (List String)}
    (orders : (entries.flatMap fun entry => entry.2.keyOrders) ++ rest =
      (others.flatMap fun entry => entry.2.keyOrders) ++ behind) :
    (entries.map fun entry => (entry.1, compact entry.2)) =
        (others.map fun entry => (entry.1, compact entry.2)) ∧
      rest = behind := by
  induction entries generalizing others with
  | nil =>
      cases others with
      | nil => exact ⟨rfl, orders⟩
      | cons _ _ => cases keys
  | cons entry entries inductionHypothesis =>
      cases others with
      | nil => cases keys
      | cons other others =>
          obtain ⟨key, value⟩ := entry
          obtain ⟨name, partner⟩ := other
          obtain ⟨first, later⟩ := List.forall_mem_cons.mp each
          obtain ⟨isKey, keysLater⟩ := List.cons.inj keys
          obtain rfl : key = name := isKey
          obtain ⟨here, equalLater⟩ := same_mapping_cons equal distinct.self
          obtain ⟨distinctHere, distinctLater⟩ := distinct.of_mapping_cons
          obtain ⟨distinctOther, distinctBehind⟩ := distinctOthers.of_mapping_cons
          rw [List.flatMap_cons, List.flatMap_cons, List.append_assoc, List.append_assoc] at orders
          obtain ⟨text, remaining⟩ := first partner _ _ here distinctHere distinctOther orders
          obtain ⟨texts, ends⟩ := inductionHypothesis later keysLater equalLater distinctLater
            distinctBehind remaining
          exact ⟨by rw [List.map_cons, List.map_cons, text, texts], ends⟩

/-- The order of the keys decides the text. -/
theorem determines_compact (node : Node) : node.Determines keyOrders compact := by
  induction node using structural with
  | null | bool value | number value | string value => exact (determines_of_isScalar rfl).1
  | sequence items inductionHypothesis =>
      intro other rest behind equal distinct distinctOther orders
      cases other with
      | sequence others =>
          rw [keyOrders_sequence, keyOrders_sequence] at orders
          obtain ⟨texts, ends⟩ := map_told_of_flatMap inductionHypothesis equal distinct
            distinctOther (List.cons.inj orders).2
          exact ⟨compact_sequence_congr texts, ends⟩
      | _ => cases equal
  | mapping entries inductionHypothesis =>
      intro other rest behind equal distinct distinctOther orders
      cases other with
      | mapping others =>
          rw [keyOrders_mapping, keyOrders_mapping] at orders
          obtain ⟨keys, orders⟩ := List.cons.inj orders
          obtain ⟨texts, ends⟩ := map_compact_of_keyOrders inductionHypothesis keys equal distinct
            distinctOther orders
          exact ⟨compact_mapping_congr texts, ends⟩
      | _ => cases equal

/-! ## From the text to the order of the keys -/

/-- The texts of the entries of equal mappings tell the keys and where each value ends. -/
theorem keyOrders_of_compactEntries
    {entries : List (String × Node)}
    (each : ∀ entry ∈ entries, entry.2.Determines compact keyOrders)
    {others : List (String × Node)}
    (equal : same (.mapping entries) (.mapping others) = true)
    (distinct : (Node.mapping entries).DistinctKeys)
    (distinctOthers : (Node.mapping others).DistinctKeys)
    {rest behind : List Char}
    (texts : compactEntries entries ++ rest = compactEntries others ++ behind) :
    (Node.mapping entries).keyOrders = (Node.mapping others).keyOrders ∧ rest = behind := by
  induction entries generalizing others with
  | nil =>
      cases others with
      | nil => exact ⟨rfl, (List.cons.inj texts).2⟩
      | cons _ _ => cases equal
  | cons entry entries inductionHypothesis =>
      cases others with
      | nil => cases equal
      | cons other others =>
          obtain ⟨key, value⟩ := entry
          obtain ⟨name, partner⟩ := other
          obtain ⟨first, later⟩ := List.forall_mem_cons.mp each
          simp only [compactEntries, List.cons_append, List.append_assoc, List.cons.injEq,
            true_and] at texts
          obtain ⟨rfl, behindKey⟩ := writtenText_append_inj texts
          obtain ⟨here, equalLater⟩ := same_mapping_cons equal distinct.self
          obtain ⟨distinctHere, distinctLater⟩ := distinct.of_mapping_cons
          obtain ⟨distinctOther, distinctBehind⟩ := distinctOthers.of_mapping_cons
          obtain ⟨order, remaining⟩ :=
            first partner _ _ here distinctHere distinctOther (List.cons.inj behindKey).2
          obtain ⟨orders, ends⟩ :=
            inductionHypothesis later equalLater distinctLater distinctBehind remaining
          rw [keyOrders_mapping, keyOrders_mapping] at orders ⊢
          obtain ⟨keys, ordersLater⟩ := List.cons.inj orders
          refine ⟨?_, ends⟩
          rw [List.flatMap_cons, List.flatMap_cons, order, ordersLater]
          exact congrArg (List.cons · _) (congrArg (List.cons key) keys)

/-- The text decides the order of the keys. -/
theorem determines_keyOrders (node : Node) : node.Determines compact keyOrders := by
  induction node using structural with
  | null | bool value | number value | string value => exact (determines_of_isScalar rfl).2
  | sequence items inductionHypothesis =>
      intro other rest behind equal distinct distinctOther texts
      cases other with
      | sequence others =>
          have separated : ∀ item ∈ items,
              item.Determines (fun item => ',' :: item.compact) keyOrders :=
            fun item member other rest behind same distinct distinctOther texts =>
              inductionHypothesis item member other rest behind same distinct distinctOther
                (List.cons.inj texts).2
          have joined : items.flatMap (fun item => ',' :: item.compact) ++ ']' :: rest =
              others.flatMap (fun item => ',' :: item.compact) ++ ']' :: behind := by
            cases items with
            | nil =>
                cases others with
                | nil => exact (List.cons.inj texts).2
                | cons _ _ => cases equal
            | cons item items =>
                cases others with
                | nil => cases equal
                | cons other others =>
                    simpa [compact, compactItems_eq_flatMap] using texts
          obtain ⟨orders, ends⟩ :=
            map_told_of_flatMap separated equal distinct distinctOther joined
          have flat := congrArg List.flatten orders
          rw [← List.flatMap_def, ← List.flatMap_def] at flat
          rw [keyOrders_sequence, keyOrders_sequence, flat]
          exact ⟨rfl, (List.cons.inj ends).2⟩
      | _ => cases equal
  | mapping entries inductionHypothesis =>
      intro other rest behind equal distinct distinctOther texts
      cases other with
      | mapping others =>
          have joined : compactEntries entries ++ rest = compactEntries others ++ behind := by
            cases entries with
            | nil =>
                cases others with
                | nil => exact (List.cons.inj texts).2
                | cons _ _ => cases equal
            | cons entry entries =>
                cases others with
                | nil => cases equal
                | cons other others => simpa [compact, compactEntries] using texts
          exact keyOrders_of_compactEntries inductionHypothesis equal distinct distinctOther joined
      | _ => cases equal

/-- Nodes that are structurally equal have the same text for readers exactly if their keys stand in
the same order. -/
theorem display_eq_iff_of_same
    {node other : Node}
    (equal : same node other = true)
    (distinct : node.DistinctKeys)
    (distinctOther : other.DistinctKeys) :
    node.display = other.display ↔ node.keyOrders = other.keyOrders := by
  cases scalar : node.isScalar with
  | true =>
      obtain ⟨scalarOther, -, text⟩ := compact_and_display_of_same scalar equal
      rw [text, keyOrders_of_isScalar scalar, keyOrders_of_isScalar scalarOther]
      exact iff_of_true rfl rfl
  | false =>
      have displays : node.display = node.render ∧ other.display = other.render := by
        cases node with
        | sequence _ | mapping _ =>
            cases other with
            | sequence _ | mapping _ => exact ⟨rfl, rfl⟩
            | _ => cases equal
        | _ => cases scalar
      rw [displays.1, displays.2, render, render, String.ofList_inj]
      constructor
      · intro texts
        exact (determines_keyOrders node other [] [] equal distinct distinctOther
          (congrArg (· ++ []) texts)).1
      · intro orders
        exact (determines_compact node other [] [] equal distinct distinctOther
          (congrArg (· ++ []) orders)).1

end Node
end Storyboard
