import Storyboard.Node
import Storyboard.Json.Tree

/-!
# Reading nodes

A node is read from JSON text directly or made from a tree that was read before.
Every number becomes a double; a repeated key keeps its first place and its last
value.
-/

namespace Storyboard
namespace Node

open Json

/-- Builds a node. -/
def builder : Builder Node where
  null := .null
  bool := .bool
  number text := mapValue (fun number => .number number.toFloat) (Json.number text)
  text text := mapValue .string (quoted text)
  key := quoted
  list := .sequence
  table entries := .mapping (Table.ofEntries entries)

/-- Read a node in which containers nest no deeper than a limit. -/
def reader (depth : Nat) : Reader Node := value builder depth

/-- Read a whole text as a node. -/
def parse (text : String) : Except Failure Node :=
  whole (reader depthLimit) text.toList

mutual

/-- The node of a tree. -/
def ofTree : Tree → Node
  | .null => .null
  | .bool value => .bool value
  | .number value => .number value.toFloat
  | .text value => .string value
  | .list items => .sequence (ofTrees items)
  | .table entries => .mapping (ofTreeEntries entries)

/-- The nodes of trees. -/
def ofTrees : List Tree → List Node
  | [] => []
  | item :: rest => ofTree item :: ofTrees rest

/-- The nodes of trees under keys. -/
def ofTreeEntries : List (String × Tree) → List (String × Node)
  | [] => []
  | (key, item) :: rest => (key, ofTree item) :: ofTreeEntries rest

end

end Node
end Storyboard
