import Storyboard.Proofs.Node.Reading
import Storyboard.Proofs.Path.Commuting

/-!
# Structural equality

Structural equality is symmetric and transitive on nodes in which no key comes twice, and it
does not see the order of entries at any depth.  It is not reflexive: what is not a number
equals nothing, and neither does a node that holds it.
-/

namespace Storyboard

namespace Decimal

variable {x y z : Float}

theorem beq_symm (equal : (x == y) = true) : (y == x) = true := by
  obtain ⟨number, otherNumber, alike⟩ := Float.beq_iff_ne_nan_and_eq.mp equal
  refine Float.beq_iff_ne_nan_and_eq.mpr ⟨otherNumber, number, ?_⟩
  rcases alike with same | ⟨zero, negative⟩ | ⟨negative, zero⟩
  · exact .inl same.symm
  · exact .inr (.inr ⟨negative, zero⟩)
  · exact .inr (.inl ⟨zero, negative⟩)

theorem beq_trans (first : (x == y) = true) (second : (y == z) = true) : (x == z) = true := by
  obtain ⟨number, -, alike⟩ := Float.beq_iff_ne_nan_and_eq.mp first
  obtain ⟨-, otherNumber, alikeNext⟩ := Float.beq_iff_ne_nan_and_eq.mp second
  refine Float.beq_iff_ne_nan_and_eq.mpr ⟨number, otherNumber, ?_⟩
  rcases alike with rfl | ⟨rfl, rfl⟩ | ⟨rfl, rfl⟩
  · exact alikeNext
  · rcases alikeNext with rfl | ⟨-, rfl⟩ | ⟨-, rfl⟩
    · exact .inr (.inl ⟨rfl, rfl⟩)
    · exact .inr (.inl ⟨rfl, rfl⟩)
    · exact .inl rfl
  · rcases alikeNext with rfl | ⟨-, rfl⟩ | ⟨-, rfl⟩
    · exact .inr (.inr ⟨rfl, rfl⟩)
    · exact .inl rfl
    · exact .inr (.inr ⟨rfl, rfl⟩)

end Decimal

namespace Node

/-! ## Containers that are equal -/

/-- Lists are equal when they are equally long and equal in each position. -/
theorem sameItems_iff
    {items others : List Node} :
    sameItems items others = true ↔
      items.length = others.length ∧
        ∀ (position : Nat) (item other : Node), items[position]? = some item →
          others[position]? = some other → same item other = true := by
  induction items generalizing others with
  | nil => cases others <;> simp [sameItems]
  | cons first rest inductionHypothesis =>
      cases others with
      | nil => simp [sameItems]
      | cons second others =>
          rw [sameItems, Bool.and_eq_true, inductionHypothesis, List.length_cons,
            List.length_cons, Nat.add_right_cancel_iff]
          constructor
          · rintro ⟨here, lengths, later⟩
            refine ⟨lengths, fun position item other isItem isOther => ?_⟩
            cases position with
            | zero =>
                cases isItem
                cases isOther
                exact here
            | succ position => exact later position item other isItem isOther
          · rintro ⟨lengths, each⟩
            exact ⟨each 0 first second rfl rfl, lengths,
              fun position item other => each (position + 1) item other⟩

theorem sameEntries_iff
    {entries others : List (String × Node)} :
    sameEntries entries others = true ↔
      ∀ entry ∈ entries, ∃ other,
        Table.get? others entry.1 = some other ∧ same entry.2 other = true :=
  ⟨fun equal _ member => exists_get?_of_sameEntries equal member, sameEntries_of_get?⟩

/-- Mappings are equal when they are equally long and each entry of the first is found in the
second. -/
theorem same_mapping_iff
    {entries others : List (String × Node)} :
    same (.mapping entries) (.mapping others) = true ↔
      entries.length = others.length ∧
        ∀ entry ∈ entries, ∃ other,
          Table.get? others entry.1 = some other ∧ same entry.2 other = true := by
  rw [same, Bool.and_eq_true, beq_iff_eq, sameEntries_iff]

/-! ## Symmetry and transitivity -/

/-- Structural equality is symmetric.  That an equally long mapping has no further keys is seen from
the keys being distinct. -/
theorem same_symm
    {node other : Node}
    (equal : same node other = true)
    (distinct : node.DistinctKeys)
    (distinctOther : other.DistinctKeys) :
    same other node = true := by
  induction node using structural generalizing other with
  | null =>
      cases other with
      | null => rfl
      | _ => cases equal
  | bool value =>
      cases other with
      | bool other => exact BEq.symm equal
      | _ => cases equal
  | string value =>
      cases other with
      | string other => exact BEq.symm equal
      | _ => cases equal
  | number value =>
      cases other with
      | number other => exact Decimal.beq_symm equal
      | _ => cases equal
  | sequence items inductionHypothesis =>
      cases other with
      | sequence others =>
          obtain ⟨lengths, each⟩ := sameItems_iff.mp equal
          refine sameItems_iff.mpr ⟨lengths.symm, fun position other item isOther isItem => ?_⟩
          have member := List.mem_of_getElem? isItem
          exact inductionHypothesis item member (each position item other isItem isOther)
            ((all_sequence_iff.mp distinct).2 item member)
            ((all_sequence_iff.mp distinctOther).2 other (List.mem_of_getElem? isOther))
      | _ => cases equal
  | mapping entries inductionHypothesis =>
      cases other with
      | mapping others =>
          refine same_mapping_iff.mpr ⟨(same_mapping_iff.mp equal).1.symm, fun entry member => ?_⟩
          obtain ⟨value, isEntry, agrees⟩ :=
            exists_entry_of_same equal distinct.self distinctOther.self member
          exact ⟨value, Table.get?_eq_some_of_mem distinct.self isEntry,
            inductionHypothesis _ isEntry agrees ((all_mapping_iff.mp distinct).2 _ isEntry)
              ((all_mapping_iff.mp distinctOther).2 entry member)⟩
      | _ => cases equal

theorem same_comm
    {node other : Node}
    (distinct : node.DistinctKeys)
    (distinctOther : other.DistinctKeys) :
    same node other = same other node :=
  Bool.eq_iff_iff.mpr ⟨fun equal => same_symm equal distinct distinctOther,
    fun equal => same_symm equal distinctOther distinct⟩

/-- Structural equality is transitive. -/
theorem same_trans
    {node middle other : Node}
    (first : same node middle = true)
    (second : same middle other = true) :
    same node other = true := by
  induction node using structural generalizing middle other with
  | null =>
      cases middle with
      | null => exact second
      | _ => cases first
  | bool value =>
      cases middle with
      | bool middle =>
          obtain rfl : value = middle := beq_iff_eq.mp first
          exact second
      | _ => cases first
  | string value =>
      cases middle with
      | string middle =>
          obtain rfl : value = middle := beq_iff_eq.mp first
          exact second
      | _ => cases first
  | number value =>
      cases middle with
      | number middle =>
          cases other with
          | number other => exact Decimal.beq_trans first second
          | _ => cases second
      | _ => cases first
  | sequence items inductionHypothesis =>
      cases middle with
      | sequence middles =>
          cases other with
          | sequence others =>
              obtain ⟨lengths, each⟩ := sameItems_iff.mp first
              obtain ⟨lengthsNext, eachNext⟩ := sameItems_iff.mp second
              refine sameItems_iff.mpr ⟨lengths.trans lengthsNext,
                fun position item other isItem isOther => ?_⟩
              have within : position < middles.length :=
                lengths ▸ (List.getElem?_eq_some_iff.mp isItem).1
              have isMiddle : middles[position]? = some middles[position] :=
                List.getElem?_eq_getElem within
              exact inductionHypothesis item (List.mem_of_getElem? isItem)
                (each position item _ isItem isMiddle) (eachNext position _ other isMiddle isOther)
          | _ => cases second
      | _ => cases first
  | mapping entries inductionHypothesis =>
      cases middle with
      | mapping middles =>
          cases other with
          | mapping others =>
              obtain ⟨lengths, each⟩ := same_mapping_iff.mp first
              obtain ⟨lengthsNext, eachNext⟩ := same_mapping_iff.mp second
              refine same_mapping_iff.mpr ⟨lengths.trans lengthsNext, fun entry member => ?_⟩
              obtain ⟨value, found, agrees⟩ := each entry member
              obtain ⟨other, foundNext, agreesNext⟩ :=
                eachNext _ (Table.mem_of_get?_eq_some found)
              exact ⟨other, foundNext, inductionHypothesis entry member agrees agreesNext⟩
          | _ => cases second
      | _ => cases first

/-! ## The order of entries -/

/-- Keys stay distinct where entries are moved. -/
theorem Reordered.distinctKeys
    {node moved : Node}
    (reordered : node.Reordered moved)
    (distinct : node.DistinctKeys) :
    moved.DistinctKeys := by
  induction reordered with
  | refl node => exact distinct
  | trans _ _ first second => exact second (first distinct)
  | entries perm =>
      obtain ⟨here, values⟩ := all_mapping_iff.mp distinct
      exact all_mapping_iff.mpr ⟨(perm.map Prod.fst).nodup here,
        fun entry member => values entry (perm.mem_iff.mpr member)⟩
  | @value one other front key back _ inductionHypothesis =>
      obtain ⟨here, values⟩ := all_mapping_iff.mp distinct
      simp only [List.forall_mem_append, List.forall_mem_cons] at values
      refine all_mapping_iff.mpr ⟨?_, ?_⟩
      · simpa [Table.Distinct, Table.keys] using here
      · simp only [List.forall_mem_append, List.forall_mem_cons]
        exact ⟨values.1, inductionHypothesis values.2.1, values.2.2⟩
  | @item one other front back _ inductionHypothesis =>
      obtain ⟨here, items⟩ := all_sequence_iff.mp distinct
      simp only [List.forall_mem_append, List.forall_mem_cons] at items
      refine all_sequence_iff.mpr ⟨here, ?_⟩
      simp only [List.forall_mem_append, List.forall_mem_cons]
      exact ⟨items.1, inductionHypothesis items.2.1, items.2.2⟩

theorem sameItems_append_cons
    {one moved : Node}
    (alike : ∀ other, same one other = same moved other)
    (front back others : List Node) :
    sameItems (front ++ one :: back) others = sameItems (front ++ moved :: back) others := by
  induction front generalizing others with
  | nil => cases others <;> simp [sameItems, alike]
  | cons item rest inductionHypothesis =>
      cases others with
      | nil => rfl
      | cons other others =>
          rw [List.cons_append, List.cons_append, sameItems, sameItems, inductionHypothesis]

/-- A node equals what it equals with its entries in another order. -/
theorem same_of_reordered
    {node moved : Node}
    (reordered : node.Reordered moved)
    (other : Node) :
    same node other = same moved other := by
  induction reordered generalizing other with
  | refl node => rfl
  | trans _ _ first second => exact (first other).trans (second other)
  | entries perm =>
      cases other with
      | mapping others =>
          rw [Bool.eq_iff_iff, same_mapping_iff, same_mapping_iff, perm.length_eq]
          simp only [perm.mem_iff]
      | _ => rfl
  | value front key back _ inductionHypothesis =>
      cases other with
      | mapping others =>
          rw [Bool.eq_iff_iff, same_mapping_iff, same_mapping_iff]
          simp only [List.length_append, List.length_cons, List.forall_mem_append,
            List.forall_mem_cons, inductionHypothesis]
      | _ => rfl
  | item front back _ inductionHypothesis =>
      cases other with
      | sequence others => exact sameItems_append_cons inductionHypothesis front back others
      | _ => rfl

/-- The order of entries is no matter to structural equality, on either side. -/
theorem same_reordered_reordered
    {node moved other another : Node}
    (reordered : node.Reordered moved)
    (reorderedOther : other.Reordered another)
    (distinct : node.DistinctKeys)
    (distinctOther : other.DistinctKeys) :
    same node other = same moved another := by
  have distinctMoved := reordered.distinctKeys distinct
  calc same node other
      = same moved other := same_of_reordered reordered other
    _ = same other moved := same_comm distinctMoved distinctOther
    _ = same another moved := same_of_reordered reorderedOther moved
    _ = same moved another := same_comm (reorderedOther.distinctKeys distinctOther) distinctMoved

end Node
end Storyboard
