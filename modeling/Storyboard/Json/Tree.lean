import Storyboard.Json.Value
import Storyboard.Json.Writer

/-!
# JSON trees

A JSON text as data.  Whole numbers stay apart from other numbers, and a repeated
key keeps its first place and its last value.
-/

namespace Storyboard
namespace Json

/-- A JSON text as data. -/
inductive Tree where
  /-- The word `null`. -/
  | null
  /-- A truth value. -/
  | bool (value : Bool)
  /-- A number. -/
  | number (value : Number)
  /-- A text. -/
  | text (value : String)
  /-- A list. -/
  | list (items : List Tree)
  /-- Entries under distinct keys. -/
  | table (entries : List (String × Tree))

/-- The text of a number; a double always keeps a point or an exponent. -/
def Number.chars : Number → List Char
  | .integer value => Decimal.intChars value
  | .real value => Decimal.interchange.chars value

namespace Tree

mutual

/-- The text of a tree without spaces. -/
def compact : Tree → List Char
  | .null => writtenNull
  | .bool value => writtenBool value
  | .number value => value.chars
  | .text value => writtenText value
  | .list [] => ['[', ']']
  | .list (first :: rest) => '[' :: (compact first ++ compactItems rest)
  | .table [] => ['{', '}']
  | .table ((key, first) :: rest) =>
      '{' :: (writtenText key ++ ':' :: (compact first ++ compactEntries rest))

/-- The items after the first one and the closing bracket. -/
def compactItems : List Tree → List Char
  | [] => [']']
  | item :: rest => ',' :: (compact item ++ compactItems rest)

/-- The entries after the first one and the closing brace. -/
def compactEntries : List (String × Tree) → List Char
  | [] => ['}']
  | (key, item) :: rest =>
      ',' :: (writtenText key ++ ':' :: (compact item ++ compactEntries rest))

end

/-- The text of a tree without spaces. -/
def render (tree : Tree) : String := String.ofList tree.compact

/-- Builds a tree. -/
def builder : Builder Tree where
  null := .null
  bool := .bool
  number text := mapValue .number (Json.number text)
  text text := mapValue .text (quoted text)
  key := quoted
  list := .list
  table entries := .table (Table.ofEntries entries)

/-- Read a whole text as a tree. -/
def parse (text : String) : Except Failure Tree :=
  whole (value builder depthLimit) text.toList

end Tree
end Json
end Storyboard
