import Storyboard.Table
import Storyboard.Path.Parser

/-!
# Remembered paths

A cache keeps the components of every path that has been parsed.  A path that
cannot be parsed is not remembered.
-/

namespace Storyboard
namespace Path

/-- The parsed paths by their text. -/
abbrev Cache := List (String × Path)

/-- Parse a path through a cache. -/
def Cache.parse (cache : Cache) (path : String) : Except PathError Path × Cache :=
  match Table.get? cache path with
  | some components => (.ok components, cache)
  | none =>
      match Path.parse path with
      | .ok components => (.ok components, Table.insert cache path components)
      | .error error => (.error error, cache)

end Path
end Storyboard
