import Storyboard.Table
import Storyboard.Json.Number

/-!
# Values in JSON text

One reader takes any value off a text; what it builds is a parameter.  Containers
may stand inside one another up to a limit.
-/

namespace Storyboard
namespace Json

/-- What is made of the parts of a text. -/
structure Builder (α : Type) where
  /-- The word `null`. -/
  null : α
  /-- The words `true` and `false`. -/
  bool : Bool → α
  /-- A number, from its first character on. -/
  number : Reader α
  /-- A text, from after the opening quote on. -/
  text : Reader α
  /-- A key, from after the opening quote on. -/
  key : Reader String
  /-- A list of values. -/
  list : List α → α
  /-- Entries in the order of the text, repeated keys included. -/
  table : List (String × α) → α

variable {α : Type}

/-- Apply a function to the value that a reader returned. -/
def mapValue {α β : Type} (f : α → β) :
    Except Failure (α × List Char) → Except Failure (β × List Char)
  | .ok (value, rest) => .ok (f value, rest)
  | .error failure => .error failure

/-- The items after the first one, up to the closing bracket. -/
def moreItems (item : Reader α) : Nat → Reader (List α)
  | 0, _ => .error .ended
  | fuel + 1, text =>
      match skipSpaces text with
      | [] => .error .ended
      | ']' :: rest => .ok ([], rest)
      | ',' :: rest =>
          match skipSpaces rest with
          | [] => .error .ended
          | ']' :: _ => .error .malformed
          | next => do
              let (first, rest) ← item next
              mapValue (first :: ·) (moreItems item fuel rest)
      | _ => .error .malformed

/-- The items after an opening bracket.  Each takes at least one character. -/
def items (item : Reader α) : Reader (List α) := fun text =>
  match skipSpaces text with
  | [] => .error .ended
  | ']' :: rest => .ok ([], rest)
  | next => do
      let (first, rest) ← item next
      mapValue (first :: ·) (moreItems item text.length rest)

/-- An entry, from after the opening quote of its key on. -/
def entry (key : Reader String) (item : Reader α) : Reader (String × α) := fun text => do
  let (name, rest) ← key text
  mapValue (name, ·) (afterColon item rest)

/-- The entries after the first one, up to the closing brace. -/
def moreEntries (key : Reader String) (item : Reader α) : Nat → Reader (List (String × α))
  | 0, _ => .error .ended
  | fuel + 1, text =>
      match skipSpaces text with
      | [] => .error .ended
      | '}' :: rest => .ok ([], rest)
      | ',' :: rest =>
          match skipSpaces rest with
          | [] => .error .ended
          | '"' :: rest => do
              let (first, rest) ← entry key item rest
              mapValue (first :: ·) (moreEntries key item fuel rest)
          | _ => .error .malformed
      | _ => .error .malformed

/-- The entries after an opening brace. -/
def entries (key : Reader String) (item : Reader α) : Reader (List (String × α)) := fun text =>
  match skipSpaces text with
  | [] => .error .ended
  | '}' :: rest => .ok ([], rest)
  | '"' :: rest => do
      let (first, rest) ← entry key item rest
      mapValue (first :: ·) (moreEntries key item text.length rest)
  | _ => .error .malformed

/-- Any value in which containers nest no deeper than a limit. -/
def value (builder : Builder α) : Nat → Reader α
  | depth, text =>
      match skipSpaces text with
      | [] => .error .ended
      | 'n' :: rest => mapValue (fun _ => builder.null) (word ['u', 'l', 'l'] rest)
      | 't' :: rest => mapValue (fun _ => builder.bool true) (word ['r', 'u', 'e'] rest)
      | 'f' :: rest => mapValue (fun _ => builder.bool false) (word ['a', 'l', 's', 'e'] rest)
      | '"' :: rest => builder.text rest
      | '[' :: rest =>
          match depth with
          | 0 => .error .malformed
          | depth + 1 => mapValue builder.list (items (value builder depth) rest)
      | '{' :: rest =>
          match depth with
          | 0 => .error .malformed
          | depth + 1 =>
              mapValue builder.table (entries builder.key (value builder depth) rest)
      | c :: rest =>
          if c = '-' ∨ isDigit c then builder.number (c :: rest) else .error .malformed

/-- How deeply containers may stand inside one another. -/
def depthLimit : Nat := 127

/-- Passes over a value of any depth and checks its form only. -/
def passing : Builder Unit where
  null := ()
  bool _ := ()
  number := skipNumber
  text := skipQuoted
  key text := mapValue (fun _ => "") (skipQuoted text)
  list _ := ()
  table _ := ()

/-- Pass over a value. -/
def skip : Reader Unit := fun text => value passing text.length text

end Json
end Storyboard
