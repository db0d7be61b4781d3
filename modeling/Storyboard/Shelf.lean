import Storyboard.Json.Record
import Storyboard.Node.Reader
import Storyboard.Node.Writer
import Storyboard.Text.Blank

/-!
# The key-value store

Values that outlive a screen stand on a shelf.  A shelf may be backed by a file,
which is written whole at every change; when a write fails, the shelf keeps the
value all the same.
-/

namespace Storyboard

/-- The file behind a shelf. -/
structure Backing where
  /-- The text of the file, if there is one. -/
  content : Option String
  /-- Whether a write succeeds, by the number of writes before it. -/
  permits : Nat → Bool
  /-- How many writes were tried. -/
  tries : Nat := 0

/-- The key-value store of a session. -/
structure Shelf where
  /-- The entries in the order in which their keys were first set. -/
  entries : List (String × Node) := []
  /-- The file, for a store that keeps one. -/
  backing : Option Backing := none

/-- Write a text to the file, if the write succeeds. -/
def Backing.save (backing : Backing) (text : String) : Backing :=
  { backing with
    content := if backing.permits backing.tries then some text else backing.content
    tries := backing.tries + 1 }

namespace Shelf

/-- The value under a key. -/
def get? (shelf : Shelf) (key : String) : Option Node :=
  Table.get? shelf.entries key

/-- The text of a file that holds entries. -/
def render (entries : List (String × Node)) : String :=
  (Node.mapping entries).renderPretty

/-- Store a value and write the file. -/
def set (shelf : Shelf) (key : String) (value : Node) : Shelf :=
  let entries := Table.insert shelf.entries key value
  { entries := entries
    backing := shelf.backing.map fun backing => backing.save (render entries) }

/-- The entries that the text of a file holds; a blank text holds none. -/
def parse (text : String) : Except Json.Failure (List (String × Node)) :=
  if Text.isBlankText text then .ok []
  else Json.whole (Json.tableOf Node.reader Json.depthLimit) text.toList

/-- A shelf on a file, with the entries that the file holds. -/
def fromFile (content : Option String) (permits : Nat → Bool) : Except Json.Failure Shelf :=
  let backed (entries : List (String × Node)) : Shelf :=
    { entries := entries, backing := some { content := content, permits := permits } }
  match content with
  | none => .ok (backed [])
  | some text =>
      match parse text with
      | .ok entries => .ok (backed entries)
      | .error failure => .error failure

/-- A stored value is read back, and no other value changes. -/
theorem get?_set (shelf : Shelf) (key : String) (value : Node) (other : String) :
    (shelf.set key value).get? other = if key = other then some value else shelf.get? other :=
  Table.get?_insert shelf.entries key value other

/-- What is read does not depend on the file. -/
theorem entries_set (shelf : Shelf) (key : String) (value : Node) :
    (shelf.set key value).entries = Table.insert shelf.entries key value := rfl

end Shelf
end Storyboard
