import Storyboard.Json.Number
import Storyboard.Path

/-!
# Parsing paths

A path is read from left to right.  A base or a key runs up to the next dot or
opening bracket; what stands between brackets runs up to the next closing one.
-/

namespace Storyboard
namespace Path

/-- The first number that is no position. -/
def positionBound : Nat := Nat.pow 2 64

/-- The text between two equal quotes, if there are such at its ends. -/
def unquoted? (quote : Char) : List Char → Option (List Char)
  | [] => none
  | first :: rest =>
      if first = quote ∧ rest.getLast? = some quote then some rest.dropLast else none

/-- What a text between brackets stands for: digits for a position, all else for a key. -/
def bracketComponent (inner : List Char) : Component :=
  if inner.all Json.isDigit ∧ Json.ofDigits inner < positionBound then
    .index (Json.ofDigits inner)
  else
    .dynamic (String.ofList
      ((unquoted? '"' inner).or (unquoted? '\x27' inner) |>.getD inner))

/-- Put a component before those that follow. -/
def prepend (component : Component) : Except PathError Path → Except PathError Path
  | .ok path => .ok (component :: path)
  | .error error => .error error

mutual

/--
Read the rest of a key.  Its segment starts at `start`, its characters so far are
`taken`, the latest first, and the text that is left starts at `offset`.
-/
def readKey (path : String) (start : Nat) (taken : List Char) (offset : Nat) :
    List Char → Except PathError Path
  | [] =>
      if taken = [] then .error (.trailingDot path)
      else .ok [.key (String.ofList taken.reverse)]
  | c :: rest =>
      if c = ']' then .error (.unexpectedCharacter path c offset)
      else if c = '.' then
        if taken = [] then .error (.emptyKey path start)
        else prepend (.key (String.ofList taken.reverse)) (readKey path offset [] (offset + 1) rest)
      else if c = '[' then
        if taken = [] then .error (.emptyKey path start)
        else
          prepend (.key (String.ofList taken.reverse)) (readBracket path offset [] (offset + 1) rest)
      else readKey path start (c :: taken) (offset + c.utf8Size) rest

/-- Read the rest of a bracket that opened at `start`. -/
def readBracket (path : String) (start : Nat) (taken : List Char) (offset : Nat) :
    List Char → Except PathError Path
  | [] => .error (.unterminatedBracket path start)
  | c :: rest =>
      if c = ']' then
        if taken = [] then .error (.emptyBracket path start)
        else prepend (bracketComponent taken.reverse) (readSegment path (offset + 1) rest)
      else readBracket path start (c :: taken) (offset + c.utf8Size) rest

/-- Read what follows a closing bracket: another segment or nothing. -/
def readSegment (path : String) (offset : Nat) : List Char → Except PathError Path
  | [] => .ok []
  | c :: rest =>
      if c = '.' then readKey path offset [] (offset + 1) rest
      else if c = '[' then readBracket path offset [] (offset + 1) rest
      else .error (.unexpectedCharacter path c offset)

end

/-- Parse a path. -/
def parse (path : String) : Except PathError Path :=
  if path.toList = [] then .error .empty
  else readKey path 0 [] 0 path.toList

end Path
end Storyboard
