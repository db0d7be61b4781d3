import Storyboard.Decimal.Binary
import Storyboard.Table

/-!
# Nodes

A node is the untyped value that every screen, event and variable is made of:
scalars, ordered sequences, and mappings from text keys in authoring order.
Because a mapping keeps its order, "the first key" of a mapping is well defined.
-/

namespace Storyboard

/-- An untyped value. -/
inductive Node where
  /-- The absent value. -/
  | null
  /-- A truth value. -/
  | bool (value : Bool)
  /-- A double-precision number. -/
  | number (value : Float)
  /-- A text. -/
  | string (value : String)
  /-- An ordered list. -/
  | sequence (items : List Node)
  /-- Entries under text keys, in authoring order. -/
  | mapping (entries : List (String × Node))
  deriving Inhabited

namespace Node

/-- The text of a text node. -/
def asString? : Node → Option String
  | .string value => some value
  | _ => none

/-- The number of a number node. -/
def asNumber? : Node → Option Float
  | .number value => some value
  | _ => none

/-- The truth value of a boolean node. -/
def asBool? : Node → Option Bool
  | .bool value => some value
  | _ => none

/-- The items of a sequence. -/
def asSequence? : Node → Option (List Node)
  | .sequence items => some items
  | _ => none

/-- The entries of a mapping. -/
def asMapping? : Node → Option (List (String × Node))
  | .mapping entries => some entries
  | _ => none

/-- Whether the node is `null`. -/
def isNull : Node → Bool
  | .null => true
  | _ => false

/-- Only `true` itself counts as true. -/
def isTrue : Node → Bool
  | .bool true => true
  | _ => false

/-- The value under a key, when the node is a mapping that has it. -/
def get? : Node → String → Option Node
  | .mapping entries, key => Table.get? entries key
  | _, _ => none

/-- The name of the node's kind. -/
def typeName : Node → String
  | .null => "null"
  | .bool _ => "bool"
  | .number _ => "number"
  | .string _ => "string"
  | .sequence _ => "sequence"
  | .mapping _ => "mapping"

/-- A whole number as a node. -/
def ofNat (n : Nat) : Node := .number (Decimal.ofInteger n)

/-- An optional value as a node: nothing is `null`. -/
def ofOption : Option Node → Node
  | some node => node
  | none => .null

/--
Equality of scalars by value.  Sequences and mappings never compare equal, not
even to themselves, so that storing one always counts as a change.
-/
def shallowEq : Node → Node → Bool
  | .null, .null => true
  | .bool a, .bool b => a == b
  | .number a, .number b => a == b
  | .string a, .string b => a == b
  | _, _ => false

mutual

/--
Structural equality: sequences agree item by item, mappings agree on their keys
and on the value under each key, in whatever order the entries stand.
-/
def same : Node → Node → Bool
  | .null, .null => true
  | .bool a, .bool b => a == b
  | .number a, .number b => a == b
  | .string a, .string b => a == b
  | .sequence xs, .sequence ys => sameItems xs ys
  | .mapping xs, .mapping ys => xs.length == ys.length && sameEntries xs ys
  | _, _ => false

/-- Item-by-item equality of two lists. -/
def sameItems : List Node → List Node → Bool
  | [], [] => true
  | x :: xs, y :: ys => same x y && sameItems xs ys
  | _, _ => false

/-- Whether each of the first entries is found, with an equal value, among the second. -/
def sameEntries : List (String × Node) → List (String × Node) → Bool
  | [], _ => true
  | (key, value) :: rest, ys =>
      (match Table.get? ys key with
       | some other => same value other
       | none => false) && sameEntries rest ys

end

instance : BEq Node := ⟨same⟩

mutual

/-- How many containers are nested inside one another. -/
def depth : Node → Nat
  | .sequence items => depthItems items + 1
  | .mapping entries => depthEntries entries + 1
  | _ => 0

/-- The greatest depth among the items. -/
def depthItems : List Node → Nat
  | [] => 0
  | item :: rest => max (depth item) (depthItems rest)

/-- The greatest depth among the values. -/
def depthEntries : List (String × Node) → Nat
  | [] => 0
  | (_, value) :: rest => max (depth value) (depthEntries rest)

end

@[simp] theorem get?_mapping (entries : List (String × Node)) (key : String) :
    (Node.mapping entries).get? key = Table.get? entries key := rfl

/-- Sequences are never shallowly equal to anything. -/
@[simp] theorem shallowEq_sequence (items : List Node) (other : Node) :
    shallowEq (.sequence items) other = false := by
  cases other <;> rfl

/-- Mappings are never shallowly equal to anything. -/
@[simp] theorem shallowEq_mapping (entries : List (String × Node)) (other : Node) :
    shallowEq (.mapping entries) other = false := by
  cases other <;> rfl

end Node
end Storyboard
