import Storyboard.Node
import Storyboard.Path

/-!
# Reading and writing below a node

A read follows the components and finds a value or nothing.  A write makes every
container it needs: a missing or unsuitable value on the way gives way to an
empty container, and a sequence grows with nulls up to the written position.
-/

namespace Storyboard
namespace Path

/-- The value at a path below a node. -/
def walk? : Path → Node → Option Node
  | [], node => some node
  | .index position :: rest, .sequence items =>
      match items[position]? with
      | some item => walk? rest item
      | none => none
  | .key name :: rest, .mapping entries =>
      match Table.get? entries name with
      | some value => walk? rest value
      | none => none
  | .dynamic name :: rest, .mapping entries =>
      match Table.get? entries name with
      | some value => walk? rest value
      | none => none
  | _ :: _, _ => none

/-- The greatest position that a write may reach. -/
def indexLimit : Nat := 100000

/-- The empty container that the next component needs. -/
def seed : Path → Node
  | [] => .null
  | .index _ :: _ => .sequence []
  | .key _ :: _ => .mapping []
  | .dynamic _ :: _ => .mapping []

/-- The value to write below: an empty container where there is none yet. -/
def ground (rest : Path) : Option Node → Node
  | none => seed rest
  | some .null => seed rest
  | some node => node

/-- The items of a sequence; of anything else, none. -/
def itemsOf (node : Node) : List Node := node.asSequence?.getD []

/-- The entries of a mapping; of anything else, none. -/
def entriesOf (node : Node) : List (String × Node) := node.asMapping?.getD []

/-- A list with at least as many items as a length asks for, nulls at the end. -/
def padded (items : List Node) (length : Nat) : List Node :=
  items ++ List.replicate (length - items.length) Node.null

/-- A node with a value written at a path below it. -/
def modify (value : Node) : Path → Node → Except PathError Node
  | [], _ => .ok value
  | .index position :: rest, node =>
      if indexLimit < position then .error (.indexTooLarge position indexLimit)
      else
        let items := padded (itemsOf node) (position + 1)
        match modify value rest (ground rest items[position]?) with
        | .ok child => .ok (.sequence (items.set position child))
        | .error error => .error error
  | .key name :: rest, node =>
      match modify value rest (ground rest (Table.get? (entriesOf node) name)) with
      | .ok child => .ok (.mapping (Table.insert (entriesOf node) name child))
      | .error error => .error error
  | .dynamic name :: rest, node =>
      match modify value rest (ground rest (Table.get? (entriesOf node) name)) with
      | .ok child => .ok (.mapping (Table.insert (entriesOf node) name child))
      | .error error => .error error

@[simp] theorem walk?_nil (node : Node) : walk? [] node = some node := by
  cases node <;> rfl

@[simp] theorem modify_nil (value node : Node) : modify value [] node = .ok value := rfl

end Path
end Storyboard
