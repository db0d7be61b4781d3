import Storyboard.Node
import Storyboard.Json.Tree

/-!
# Writing nodes

A node is written as JSON text, compact or indented, where a number without
digits becomes `null`; as text for readers; and as a tree, which exists only when
every number has digits.
-/

namespace Storyboard
namespace Node

open Json

mutual

/-- The JSON text of a node without spaces. -/
def compact : Node → List Char
  | .null => writtenNull
  | .bool value => writtenBool value
  | .number value => Decimal.interchangeChars value
  | .string value => writtenText value
  | .sequence [] => ['[', ']']
  | .sequence (first :: rest) => '[' :: (compact first ++ compactItems rest)
  | .mapping [] => ['{', '}']
  | .mapping ((key, first) :: rest) =>
      '{' :: (writtenText key ++ ':' :: (compact first ++ compactEntries rest))

/-- The items after the first one and the closing bracket. -/
def compactItems : List Node → List Char
  | [] => [']']
  | item :: rest => ',' :: (compact item ++ compactItems rest)

/-- The entries after the first one and the closing brace. -/
def compactEntries : List (String × Node) → List Char
  | [] => ['}']
  | (key, item) :: rest =>
      ',' :: (writtenText key ++ ':' :: (compact item ++ compactEntries rest))

end

mutual

/-- The indented JSON text of a node that starts at a level of indentation. -/
def indented (level : Nat) : Node → List Char
  | .null => writtenNull
  | .bool value => writtenBool value
  | .number value => Decimal.interchangeChars value
  | .string value => writtenText value
  | .sequence [] => ['[', ']']
  | .sequence (first :: rest) =>
      '[' :: (newLine (level + 1) ++ (indented (level + 1) first ++ indentedItems level rest))
  | .mapping [] => ['{', '}']
  | .mapping ((key, first) :: rest) =>
      '{' :: (newLine (level + 1) ++ (writtenText key ++ ':' :: ' ' ::
        (indented (level + 1) first ++ indentedEntries level rest)))

/-- The items after the first one and the closing bracket, each on a line. -/
def indentedItems (level : Nat) : List Node → List Char
  | [] => newLine level ++ [']']
  | item :: rest =>
      ',' :: (newLine (level + 1) ++ (indented (level + 1) item ++ indentedItems level rest))

/-- The entries after the first one and the closing brace, each on a line. -/
def indentedEntries (level : Nat) : List (String × Node) → List Char
  | [] => newLine level ++ ['}']
  | (key, item) :: rest =>
      ',' :: (newLine (level + 1) ++ (writtenText key ++ ':' :: ' ' ::
        (indented (level + 1) item ++ indentedEntries level rest)))

end

/-- The JSON text of a node without spaces. -/
def render (node : Node) : String := String.ofList node.compact

/-- The indented JSON text of a node. -/
def renderPretty (node : Node) : String := String.ofList (indented 0 node)

/-- The text of a node for readers: a text stands for itself, a container is compact JSON. -/
def display : Node → String
  | .null => "null"
  | .bool true => "true"
  | .bool false => "false"
  | .number value => String.ofList (Decimal.displayChars value)
  | .string value => value
  | .sequence items => render (.sequence items)
  | .mapping entries => render (.mapping entries)

/-- A number as part of a tree; one without digits has no place there. -/
def numberTree (value : Float) : Except Float Tree :=
  match Decimal.exactInteger? value with
  | some whole => .ok (.number (.integer whole))
  | none => if Decimal.isFinite value then .ok (.number (.real value)) else .error value

mutual

/-- The tree of a node, or the first number in it that has no digits. -/
def toTree : Node → Except Float Tree
  | .null => .ok .null
  | .bool value => .ok (.bool value)
  | .number value => numberTree value
  | .string value => .ok (.text value)
  | .sequence items => do return .list (← toTrees items)
  | .mapping entries => do return .table (← toTreeEntries entries)

/-- The trees of nodes. -/
def toTrees : List Node → Except Float (List Tree)
  | [] => .ok []
  | item :: rest => do
      let first ← toTree item
      return first :: (← toTrees rest)

/-- The trees of nodes under keys. -/
def toTreeEntries : List (String × Node) → Except Float (List (String × Tree))
  | [] => .ok []
  | (key, item) :: rest => do
      let first ← toTree item
      return (key, first) :: (← toTreeEntries rest)

end

/-- What is said of a number that has no digits. -/
def noDigitsMessage (value : Float) : String :=
  "Number " ++ String.ofList (Decimal.reading.chars value) ++ " cannot be represented in JSON"

end Node
end Storyboard
