import Storyboard.Proofs.Node.Texts
import Storyboard.Proofs.Operator.Equality

/-!
# Finding equal items

The operators on lists search by the texts of items for readers.  An item that is structurally
equal to what is searched for is found if its keys stand in the same order, and by itself it is
found only then.
-/

namespace Storyboard

/-- A search for the first position ends no later than at a position that is searched for. -/
theorem exists_findIdx?_le
    {α : Type}
    (sought : α → Bool)
    {items : List α}
    {position : Nat}
    {item : α}
    (isItem : items[position]? = some item)
    (holds : sought item = true) :
    ∃ first ≤ position, items.findIdx? sought = some first := by
  cases found : items.findIdx? sought with
  | none =>
      have fails := List.findIdx?_eq_none_iff.mp found item (List.mem_of_getElem? isItem)
      rw [holds] at fails
      cases fails
  | some first =>
      refine ⟨first, ?_, rfl⟩
      obtain ⟨within, -, earlier⟩ := List.findIdx?_eq_some_iff_getElem.mp found
      obtain ⟨_, rfl⟩ := List.getElem?_eq_some_iff.mp isItem
      by_contra beyond
      exact earlier position (Nat.lt_of_not_le beyond) holds

namespace Operator

theorem answer?_contains
    (scope : Scope)
    (items : List Node)
    (needle : Node) :
    answer? "Array.contains" scope (.sequence [.sequence items, needle]) =
      some (.bool (items.findIdx? fun item => item.display == needle.display).isSome) := rfl

theorem answer?_indexOf
    (scope : Scope)
    (items : List Node)
    (needle : Node) :
    answer? "Array.indexOf" scope (.sequence [.sequence items, needle]) =
      some (match items.findIdx? fun item => item.display == needle.display with
        | some position => .ofNat position
        | none => .number (Decimal.ofInteger (-1))) := by
  have position : Lists.position? (.sequence [.sequence items, needle]) =
      some (items.findIdx? fun item => item.display == needle.display) := rfl
  change some (Lists.indexOf (.sequence [.sequence items, needle])) = _
  rw [Lists.indexOf, position]
  cases items.findIdx? fun item => item.display == needle.display <;> rfl

/-- Two operands are compared by structural equality. -/
theorem answer?_eq_pair
    (scope : Scope)
    (item other : Node) :
    answer? "Logic.eq" scope (.sequence [item, other]) = some (.bool (Node.same other item)) := by
  rw [answer?_eq, Logic.allSame?, Logic.ofBool?, List.all_cons, List.all_nil, Bool.and_true]

/--
An item of a list that `Logic.eq` finds equal to a needle, where no key comes twice, is told to be
in the list of this item alone exactly if the keys of both stand in the same order, at every depth.
If they do, every list with the item in some position is told to contain the needle, and its first
position is given as one that does not lie behind.
-/
theorem finds_equal_in_order
    (scope : Scope)
    {items : List Node}
    {position : Nat}
    {item needle : Node}
    (isItem : items[position]? = some item)
    (distinct : item.DistinctKeys)
    (distinctNeedle : needle.DistinctKeys)
    (equal : answer? "Logic.eq" scope (.sequence [item, needle]) = some (.bool true)) :
    (answer? "Array.contains" scope (.sequence [.sequence [item], needle]) = some (.bool true) ↔
      item.keyOrders = needle.keyOrders) ∧
    (item.keyOrders = needle.keyOrders →
      answer? "Array.contains" scope (.sequence [.sequence items, needle]) = some (.bool true) ∧
      ∃ first ≤ position,
        answer? "Array.indexOf" scope (.sequence [.sequence items, needle]) =
          some (.ofNat first)) := by
  have same : Node.same needle item = true := by
    rw [answer?_eq_pair] at equal
    simpa using equal
  have texts : item.display = needle.display ↔ item.keyOrders = needle.keyOrders :=
    Node.display_eq_iff_of_same (Node.same_symm same distinctNeedle distinct) distinct
      distinctNeedle
  constructor
  · rw [← texts, answer?_contains]
    simp [List.findIdx?_cons]
  · intro ordered
    have holds : (item.display == needle.display) = true := beq_iff_eq.mpr (texts.mpr ordered)
    obtain ⟨first, within, found⟩ :=
      exists_findIdx?_le (fun item => item.display == needle.display) isItem holds
    refine ⟨by rw [answer?_contains, found, Option.isSome_some], first, within, ?_⟩
    rw [answer?_indexOf, found]

/-- A mapping with the two zeros below keys in one order is found behind a text. -/
theorem finds_equal_in_order_of_zeros :
    let scope : Scope := ⟨[], none, []⟩
    let item : Node := .mapping [("a", .sequence [.number (Float.ofBits 0)]), ("b", .null)]
    let needle : Node :=
      .mapping [("a", .sequence [.number (Float.ofBits 9223372036854775808)]), ("b", .null)]
    let items : List Node := [.string "a", item]
    items[1]? = some item ∧ item.DistinctKeys ∧ needle.DistinctKeys ∧
      answer? "Logic.eq" scope (.sequence [item, needle]) = some (.bool true) ∧
      item.keyOrders = needle.keyOrders ∧
      answer? "Array.contains" scope (.sequence [.sequence items, needle]) = some (.bool true) ∧
      ∃ first ≤ 1,
        answer? "Array.indexOf" scope (.sequence [.sequence items, needle]) =
          some (.ofNat first) := by
  intro scope item needle items
  have isItem : items[1]? = some item := rfl
  have distinct : item.DistinctKeys := by decide +kernel
  have distinctNeedle : needle.DistinctKeys := by decide +kernel
  have same : Node.same needle item = true := by decide +kernel
  have equal : answer? "Logic.eq" scope (.sequence [item, needle]) = some (.bool true) := by
    rw [answer?_eq_pair, same]
  have ordered : item.keyOrders = needle.keyOrders := by decide +kernel
  exact ⟨isItem, distinct, distinctNeedle, equal, ordered,
    (finds_equal_in_order scope isItem distinct distinctNeedle equal).2 ordered⟩

/-- Two keys in the other order: `Logic.eq` finds the mappings equal, but the list of the one is not
told to contain the other. -/
theorem not_finds_equal_in_other_order :
    let scope : Scope := ⟨[], none, []⟩
    let item : Node := .mapping [("a", .bool true), ("b", .null)]
    let needle : Node := .mapping [("b", .null), ("a", .bool true)]
    item.DistinctKeys ∧ needle.DistinctKeys ∧
      answer? "Logic.eq" scope (.sequence [item, needle]) = some (.bool true) ∧
      answer? "Array.contains" scope (.sequence [.sequence [item], needle]) = some (.bool false) ∧
      answer? "Array.indexOf" scope (.sequence [.sequence [item], needle]) =
        some (.number (Decimal.ofInteger (-1))) := by
  intro scope item needle
  have same : Node.same needle item = true := by decide +kernel
  have missing : ([item].findIdx? fun item => item.display == needle.display) = none := by
    decide +kernel
  refine ⟨by decide +kernel, by decide +kernel, ?_, ?_, ?_⟩
  · rw [answer?_eq_pair, same]
  · rw [answer?_contains, missing, Option.isSome_none]
  · rw [answer?_indexOf, missing]

end Operator
end Storyboard
