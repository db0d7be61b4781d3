import Storyboard.Operator.Builtin
import Storyboard.Proofs.Node.Sameness

/-!
# Equality of operands

The operator `Logic.eq` compares all operands with the first one.  Where no key comes twice,
this tells whether every two of them are equal, so neither the order of the operands nor the
order of entries inside them has a say in the result.
-/

namespace Storyboard
namespace Operator

/-- What a built-in operator answers to evaluated input. -/
def answer? (name : String) (scope : Scope) (input : Node) : Option Node :=
  (Table.get? builtin name).map fun operator => operator scope input

theorem answer?_eq
    (scope : Scope)
    (input : Node) :
    answer? "Logic.eq" scope input = some (Logic.ofBool? (Logic.allSame? input)) := rfl

theorem answer?_neq
    (scope : Scope)
    (input : Node) :
    answer? "Logic.neq" scope input = some (Logic.ofBool? ((Logic.allSame? input).map not)) := rfl

/-- Every two of some nodes that stand in different positions are equal. -/
def AllEqual (items : List Node) : Prop :=
  ∀ (first second : Nat) (one other : Node), first ≠ second → items[first]? = some one →
    items[second]? = some other → Node.same one other = true

/-- Of every two nodes, in whatever order they stand, each equals the other. -/
theorem allEqual_iff_pairwise
    {items : List Node} :
    AllEqual items ↔
      items.Pairwise fun one other => Node.same one other = true ∧ Node.same other one = true := by
  rw [List.pairwise_iff_getElem]
  constructor
  · intro equal first second within withinOther before
    have isOne := List.getElem?_eq_getElem within
    have isOther := List.getElem?_eq_getElem withinOther
    exact ⟨equal first second _ _ (Nat.ne_of_lt before) isOne isOther,
      equal second first _ _ (Nat.ne_of_gt before) isOther isOne⟩
  · intro equal first second one other apart isOne isOther
    obtain ⟨within, rfl⟩ := List.getElem?_eq_some_iff.mp isOne
    obtain ⟨withinOther, rfl⟩ := List.getElem?_eq_some_iff.mp isOther
    rcases Nat.lt_or_gt_of_ne apart with before | behind
    · exact (equal first second within withinOther before).1
    · exact (equal second first withinOther within behind).2

theorem allEqual_perm
    {items others : List Node}
    (perm : items.Perm others) :
    AllEqual items ↔ AllEqual others := by
  rw [allEqual_iff_pairwise, allEqual_iff_pairwise]
  exact perm.pairwise_iff And.symm

/-- What stands in a position of one of two lists has a partner in the other. -/
theorem exists_getElem?_of_forall₂
    {α : Type}
    {related : α → α → Prop}
    {items others : List α}
    (forall₂ : List.Forall₂ related items others)
    {position : Nat}
    {item : α}
    (isItem : items[position]? = some item) :
    ∃ other, others[position]? = some other ∧ related item other := by
  obtain ⟨within, rfl⟩ := List.getElem?_eq_some_iff.mp isItem
  have withinOthers : position < others.length := forall₂.length_eq ▸ within
  exact ⟨others[position], List.getElem?_eq_getElem withinOthers,
    forall₂.get within withinOthers⟩

theorem AllEqual.of_reordered
    {items others : List Node}
    (equal : AllEqual others)
    (reordered : List.Forall₂ Node.Reordered items others)
    (distinct : ∀ item ∈ items, item.DistinctKeys) :
    AllEqual items := by
  intro first second one other apart isOne isOther
  obtain ⟨moved, isMoved, movedOne⟩ := exists_getElem?_of_forall₂ reordered isOne
  obtain ⟨another, isAnother, movedOther⟩ := exists_getElem?_of_forall₂ reordered isOther
  rw [Node.same_reordered_reordered movedOne movedOther (distinct one (List.mem_of_getElem? isOne))
    (distinct other (List.mem_of_getElem? isOther))]
  exact equal first second moved another apart isMoved isAnother

theorem forall_mem_distinctKeys_of_reordered
    {items others : List Node}
    (reordered : List.Forall₂ Node.Reordered items others)
    (distinct : ∀ item ∈ items, item.DistinctKeys) :
    ∀ other ∈ others, other.DistinctKeys := by
  induction reordered with
  | nil => nofun
  | cons moved _ inductionHypothesis =>
      obtain ⟨first, rest⟩ := List.forall_mem_cons.mp distinct
      exact List.forall_mem_cons.mpr ⟨moved.distinctKeys first, inductionHypothesis rest⟩

theorem allEqual_reordered
    {items others : List Node}
    (reordered : List.Forall₂ Node.Reordered items others)
    (distinct : ∀ item ∈ items, item.DistinctKeys) :
    AllEqual items ↔ AllEqual others :=
  ⟨fun equal => equal.of_reordered (reordered.flip.imp fun _ _ moved => moved.symm)
      (forall_mem_distinctKeys_of_reordered reordered distinct),
    fun equal => equal.of_reordered reordered distinct⟩

/-- Nodes that equal the first one equal one another. -/
theorem allEqual_cons_iff
    {first : Node}
    {rest : List Node}
    (distinct : ∀ item ∈ first :: rest, item.DistinctKeys) :
    AllEqual (first :: rest) ↔ ∀ item ∈ rest, Node.same item first = true := by
  obtain ⟨distinctFirst, distinctRest⟩ := List.forall_mem_cons.mp distinct
  constructor
  · intro equal item member
    obtain ⟨position, isItem⟩ := List.mem_iff_getElem?.mp member
    exact equal (position + 1) 0 item first (Nat.succ_ne_zero position) isItem rfl
  · intro each
    have fromFirst : ∀ item ∈ rest, Node.same first item = true := fun item member =>
      Node.same_symm (each item member) (distinctRest item member) distinctFirst
    rintro (_ | position) (_ | second) one other apart isOne isOther
    · exact absurd rfl apart
    · cases isOne
      exact fromFirst other (List.mem_of_getElem? isOther)
    · cases isOther
      exact each one (List.mem_of_getElem? isOne)
    · exact Node.same_trans (each one (List.mem_of_getElem? isOne))
        (fromFirst other (List.mem_of_getElem? isOther))

/-- The comparison of at least two operands with the first has a result, which tells whether all are
equal. -/
theorem exists_allSame?_eq
    {items : List Node}
    (several : 2 ≤ items.length)
    (distinct : ∀ item ∈ items, item.DistinctKeys) :
    ∃ equal : Bool, Logic.allSame? (.sequence items) = some equal ∧
      (equal = true ↔ AllEqual items) := by
  match items, several, distinct with
  | first :: second :: rest, _, distinct =>
      refine ⟨_, rfl, ?_⟩
      rw [allEqual_cons_iff distinct, List.all_eq_true]

/-- Where the same is to be said of some operands as of others, the comparison has the same
result. -/
theorem allSame?_congr
    {items others : List Node}
    (lengths : items.length = others.length)
    (distinct : ∀ item ∈ items, item.DistinctKeys)
    (distinctOthers : ∀ other ∈ others, other.DistinctKeys)
    (alike : AllEqual items ↔ AllEqual others)
    {equal : Bool}
    (several : 2 ≤ items.length)
    (result : Logic.allSame? (.sequence items) = some equal) :
    Logic.allSame? (.sequence others) = some equal := by
  obtain ⟨known, isKnown, tells⟩ := exists_allSame?_eq several distinct
  obtain ⟨other, isOther, tellsOther⟩ := exists_allSame?_eq (lengths ▸ several) distinctOthers
  obtain rfl : known = equal := Option.some.inj (isKnown.symm.trans result)
  rw [isOther, Bool.eq_iff_iff.mpr (tellsOther.trans (alike.symm.trans tells.symm))]

/--
Of at least two operands without repeated keys, `Logic.eq` tells whether every two in different
positions are structurally equal, and `Logic.neq` tells the contrary.  `Logic.eq` tells the same of
the operands in any other order, and of the operands with their entries in any other order, at any
depth.
-/
theorem eq_tells_allEqual
    (scope : Scope)
    {items : List Node}
    (several : 2 ≤ items.length)
    (distinct : ∀ item ∈ items, item.DistinctKeys) :
    ∃ equal : Bool,
      answer? "Logic.eq" scope (.sequence items) = some (.bool equal) ∧
      answer? "Logic.neq" scope (.sequence items) = some (.bool !equal) ∧
      (equal = true ↔ AllEqual items) ∧
      (∀ others, items.Perm others →
        answer? "Logic.eq" scope (.sequence others) = some (.bool equal)) ∧
      (∀ others, List.Forall₂ Node.Reordered items others →
        answer? "Logic.eq" scope (.sequence others) = some (.bool equal)) := by
  obtain ⟨equal, result, tells⟩ := exists_allSame?_eq several distinct
  refine ⟨equal, ?_, ?_, tells, fun others perm => ?_, fun others reordered => ?_⟩
  · rw [answer?_eq, result, Logic.ofBool?]
  · rw [answer?_neq, result, Option.map_some, Logic.ofBool?]
  · have distinctOthers : ∀ other ∈ others, other.DistinctKeys :=
      fun other member => distinct other (perm.mem_iff.mpr member)
    rw [answer?_eq, allSame?_congr perm.length_eq distinct distinctOthers (allEqual_perm perm) several
      result, Logic.ofBool?]
  · rw [answer?_eq, allSame?_congr reordered.length_eq distinct
      (forall_mem_distinctKeys_of_reordered reordered distinct)
      (allEqual_reordered reordered distinct) several result, Logic.ofBool?]

/-- Mappings inside mappings in two orders, with the two zeros: all are equal, however the operands
are arranged. -/
theorem eq_tells_allEqual_of_zeros :
    let scope : Scope := ⟨[], none, []⟩
    let zero : Node := .mapping [("x", .number (Float.ofBits 0)), ("y", .null)]
    let negative : Node := .mapping [("y", .null), ("x", .number (Float.ofBits 9223372036854775808))]
    let one : Node := .mapping [("a", .sequence [zero]), ("b", .string "z")]
    let other : Node := .mapping [("b", .string "z"), ("a", .sequence [negative])]
    let items : List Node := [one, other, one]
    2 ≤ items.length ∧ (∀ item ∈ items, item.DistinctKeys) ∧ AllEqual items ∧
      answer? "Logic.eq" scope (.sequence items) = some (.bool true) ∧
      answer? "Logic.neq" scope (.sequence items) = some (.bool false) ∧
      answer? "Logic.eq" scope (.sequence [other, one, one]) = some (.bool true) := by
  intro scope zero negative one other items
  have several : 2 ≤ items.length := by decide
  have distinct : ∀ item ∈ items, item.DistinctKeys := by decide +kernel
  obtain ⟨equal, result, contrary, tells, anyOrder, -⟩ := eq_tells_allEqual scope several distinct
  have whole : Logic.allSame? (.sequence items) = some true := by decide +kernel
  obtain rfl : equal = true := by
    rw [answer?_eq, whole] at result
    cases result
    rfl
  exact ⟨several, distinct, tells.mp rfl, result, contrary, anyOrder _ (.swap _ _ _)⟩

end Operator
end Storyboard
