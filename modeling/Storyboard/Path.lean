import Storyboard.Decimal.Style
import Storyboard.Text.Quoted

/-!
# Paths

A path names a place inside the variables: a variable first, then a step into a
mapping or a sequence for each further component.  Written, a path is a base
followed by segments `.key` and `[inner]`.
-/

namespace Storyboard

/-- One step of a path. -/
inductive Component where
  /-- A name: the base, or a key after a dot. -/
  | key (name : String)
  /-- A position between brackets. -/
  | index (position : Nat)
  /-- A key between brackets. -/
  | dynamic (name : String)
  deriving DecidableEq, Inhabited

namespace Component

/-- The key that a component stands for, unless it is a position. -/
def name? : Component → Option String
  | .key name => some name
  | .dynamic name => some name
  | .index _ => none

/-- A component for readers. -/
def display : Component → String
  | .key name => name
  | .index position => "[" ++ String.ofList (Decimal.natChars position) ++ "]"
  | .dynamic name => "[" ++ String.ofList (Text.quoted name) ++ "]"

end Component

/-- The steps of a path, the variable first. -/
abbrev Path := List Component

/-- Why a path cannot be parsed or written through.  Offsets count bytes. -/
inductive PathError where
  /-- There is no component. -/
  | empty
  /-- The last key is missing. -/
  | trailingDot (path : String)
  /-- A key before another segment is missing. -/
  | emptyKey (path : String) (offset : Nat)
  /-- Nothing stands between two brackets. -/
  | emptyBracket (path : String) (offset : Nat)
  /-- A bracket stays open. -/
  | unterminatedBracket (path : String) (offset : Nat)
  /-- A character stands where none like it may. -/
  | unexpectedCharacter (path : String) (character : Char) (offset : Nat)
  /-- A position lies beyond the limit for writes. -/
  | indexTooLarge (index : Nat) (limit : Nat)
  deriving DecidableEq, Inhabited

/-- What is said of a path error. -/
def PathError.message : PathError → String
  | .empty => "Path is empty"
  | .trailingDot path => "Path '" ++ path ++ "' ends with a dot"
  | .emptyKey path offset => "Empty key in path '" ++ path ++ "' at offset " ++ decimal offset
  | .emptyBracket path offset =>
      "Empty brackets in path '" ++ path ++ "' at offset " ++ decimal offset
  | .unterminatedBracket path offset =>
      "Unterminated bracket in path '" ++ path ++ "' at offset " ++ decimal offset
  | .unexpectedCharacter path character offset =>
      "Unexpected character '" ++ String.singleton character ++ "' in path '" ++ path ++
        "' at offset " ++ decimal offset
  | .indexTooLarge index limit =>
      "Index " ++ decimal index ++ " exceeds the write limit of " ++ decimal limit
where
  /-- The decimal text of a number. -/
  decimal (n : Nat) : String := String.ofList (Decimal.natChars n)

end Storyboard
