import Storyboard.Proofs.Node.Trees
import Storyboard.Web.Message

/-!
# Encoding and decoding of nodes

A node is encoded as compact text, as indented text, and as the text of its tree.  It is decoded
from text directly, from the tree of the text, and as the body of a message.  On nodes of whole
numbers that do not nest too deeply, every way to decode undoes every way to encode.
-/

namespace Storyboard
namespace Node

open Json

/-- The keys of each part of a node, in the order in which they stand. -/
def keyOrders (node : Node) : List (List String) :=
  node.parts.map fun part => Table.keys (Path.entriesOf part)

section KeyOrders

variable {f : Float → Float}

/-- Where numbers are replaced they are replaced in each part. -/
theorem parts_mapNumbers (node : Node) :
    (node.mapNumbers f).parts = node.parts.map (mapNumbers f) := by
  induction node using structural with
  | null | bool value | number value | string value => rfl
  | sequence items inductionHypothesis =>
      rw [mapNumbers, parts, parts, partsOfItems_eq_flatMap, partsOfItems_eq_flatMap,
        mapNumbersItems_eq_map, List.flatMap_map, List.map_cons, List.map_flatMap,
        List.flatMap_congr inductionHypothesis, mapNumbers, mapNumbersItems_eq_map]
  | mapping entries inductionHypothesis =>
      rw [mapNumbers, parts, parts, partsOfEntries_eq_flatMap, partsOfEntries_eq_flatMap,
        mapNumbersEntries_eq_map, List.flatMap_map, List.map_cons, List.map_flatMap,
        List.flatMap_congr inductionHypothesis, mapNumbers, mapNumbersEntries_eq_map]

theorem keyOrders_mapNumbers (node : Node) : (node.mapNumbers f).keyOrders = node.keyOrders := by
  have each : ∀ part : Node,
      Table.keys (Path.entriesOf (part.mapNumbers f)) = Table.keys (Path.entriesOf part) := by
    intro part
    cases part with
    | mapping entries =>
        rw [mapNumbers, mapNumbersEntries_eq_map]
        exact List.map_map
    | _ => rfl
  rw [keyOrders, keyOrders, parts_mapNumbers, List.map_map]
  exact List.map_congr_left fun part _ => each part

end KeyOrders

/-- The text of a node in a layout is read as a whole. -/
theorem whole_laid
    {α : Type}
    {builder : Builder α}
    {make : Node → α}
    (makes : builder.Makes make)
    (layout : Layout)
    {node : Node}
    (whole : node.WholeNumbers)
    (distinct : node.DistinctKeys)
    (shallow : node.depth ≤ depthLimit) :
    Json.whole (value builder depthLimit) (node.laid layout 0) = .ok (make node) := by
  have back := readBack makes layout whole distinct 0 depthLimit [] endsNumber_nil
  rw [List.append_nil, withinLimit, if_pos shallow] at back
  rw [Json.whole, back]
  rfl

/-- A body that is the text of a tree is decoded as the node of the tree. -/
theorem decodeBody_of_parse
    {text : String}
    {tree : Tree}
    (parsed : Tree.parse text = .ok tree) :
    Web.decodeBody (Web.bytesOf text.toList) = ofTree tree := by
  have encodes := Web.textOf?_bytesOf text
  unfold Web.decodeBody
  split
  · next empty =>
    rw [empty] at encodes
    obtain rfl : text = "" := Option.some.inj (encodes.symm.trans (Web.textOf?_bytesOf ""))
    cases parsed
  · rw [encodes]
    dsimp only
    rw [parsed]

/--
A node in which containers nest at most 127 deep, and in which every number equals a whole number
within `2 ^ 53`, has a tree.  Its compact text, its indented text and the text of its tree are all
decoded, directly, by way of a tree and as a body of bytes, and always as the same node.  This
equals the node and has every key in its place.
-/
theorem decode_encode
    {node : Node}
    (integers : ∀ part ∈ node.parts, ∀ value, part = .number value →
      ∃ whole : Int, whole.natAbs ≤ 2 ^ 53 ∧ (value == Decimal.ofInteger whole) = true)
    (distinct : node.DistinctKeys)
    (shallow : node.depth ≤ 127) :
    ∃ tree decoded, node.toTree = .ok tree ∧
      (∀ text ∈ [node.render, node.renderPretty, tree.render],
        parse text = .ok decoded ∧
          (Tree.parse text).map ofTree = .ok decoded ∧
          Web.decodeBody (Web.bytesOf text.toList) = decoded) ∧
      same node decoded = true ∧ decoded.keyOrders = node.keyOrders := by
  have whole := wholeNumbers_iff.mpr integers
  have finite := whole.finiteNumbers
  refine ⟨node.tree, node.mapNumbers plainNumber, toTree_eq_ok finite, fun text written => ?_,
    same_mapNumbers_plainNumber whole distinct, keyOrders_mapNumbers node⟩
  obtain ⟨layout, laidOut⟩ : ∃ layout, text.toList = node.laid layout 0 := by
    rw [render_tree finite] at written
    simp only [List.mem_cons, List.not_mem_nil, or_false] at written
    rcases written with rfl | rfl | rfl
    · exact ⟨.compact, by rw [render, String.toList_ofList, compact_eq_laid]⟩
    · exact ⟨.indented, by rw [renderPretty, String.toList_ofList, indented_eq_laid]⟩
    · exact ⟨.compact, by rw [render, String.toList_ofList, compact_eq_laid]⟩
  have parsed : Tree.parse text = .ok node.tree := by
    rw [Tree.parse, laidOut]
    exact whole_laid makes_tree layout whole distinct shallow
  have readDirectly : parse text = .ok (node.mapNumbers plainNumber) := by
    rw [parse, laidOut]
    exact whole_laid makes_plainNumber layout whole distinct shallow
  refine ⟨readDirectly, ?_, ?_⟩
  · rw [parsed, ← ofTree_tree]
    rfl
  · rw [decodeBody_of_parse parsed, ofTree_tree]

/-- A mapping whose keys stand in no alphabetical order, with the least exact number, the negative
zero, empty containers, and texts with a quote, a control and a character of two bytes. -/
theorem decode_encode_mixed :
    let numbers : Node := .sequence [.number (Decimal.ofInteger (-9007199254740992)),
      .number (Float.ofBits 9223372036854775808)]
    let node : Node := .mapping [("zé\"", numbers), ("a\n", .mapping []), ("", .sequence [])]
    (∀ part ∈ node.parts, ∀ value, part = .number value →
        ∃ whole : Int, whole.natAbs ≤ 2 ^ 53 ∧ (value == Decimal.ofInteger whole) = true) ∧
      node.DistinctKeys ∧ node.depth ≤ 127 ∧
      ∃ tree decoded, node.toTree = .ok tree ∧
        (∀ text ∈ [node.render, node.renderPretty, tree.render],
          parse text = .ok decoded ∧
            (Tree.parse text).map ofTree = .ok decoded ∧
            Web.decodeBody (Web.bytesOf text.toList) = decoded) ∧
        same node decoded = true ∧
        decoded.keyOrders = [["zé\"", "a\n", ""], [], [], [], [], []] := by
  intro numbers node
  have integers := wholeNumbers_iff.mp (show node.WholeNumbers by decide +kernel)
  have distinct : node.DistinctKeys := by decide +kernel
  have shallow : node.depth ≤ 127 := by decide
  exact ⟨integers, distinct, shallow, decode_encode integers distinct shallow⟩

end Node
end Storyboard
