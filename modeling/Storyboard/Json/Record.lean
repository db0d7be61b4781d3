import Storyboard.Json.Value

/-!
# Records in JSON text

A record is read field by field into slots, by name from a table or, where that is
allowed, by position from a list.  A field of the wrong shape, or one given twice,
is a mismatch as soon as it is met.
-/

namespace Storyboard
namespace Json

/-- The failure where another value stands than the wanted one: a text or a number is read first,
and is malformed if it cannot be. -/
def unwanted (text : List Char) : Failure :=
  let after {α : Type} : Except Failure (α × List Char) → Failure
    | .ok _ => .mismatch
    | .error failure => failure
  match skipSpaces text with
  | [] => .ended
  | 'n' :: rest => after (word ['u', 'l', 'l'] rest)
  | 't' :: rest => after (word ['r', 'u', 'e'] rest)
  | 'f' :: rest => after (word ['a', 'l', 's', 'e'] rest)
  | '"' :: rest => after (quoted rest)
  | '[' :: _ => .mismatch
  | '{' :: _ => .mismatch
  | c :: rest => if c = '-' ∨ isDigit c then after (number (c :: rest)) else .malformed

/-- A text. -/
def text : Reader String := fun chars =>
  match skipSpaces chars with
  | '"' :: rest => quoted rest
  | _ => .error (unwanted chars)

/-- A whole number from zero up to `2^64 - 1`. -/
def natural : Reader Nat := fun chars =>
  match skipSpaces chars with
  | [] => .error .ended
  | c :: rest =>
      if c = '-' ∨ isDigit c then
        match number (c :: rest) with
        | .ok (.integer (.ofNat value), rest) => .ok (value, rest)
        | .ok _ => .error .mismatch
        | .error failure => .error failure
      else .error (unwanted chars)

/-- A value or `null`. -/
def optional {α : Type} (read : Reader α) : Reader (Option α) := fun chars =>
  match skipSpaces chars with
  | [] => .error .ended
  | 'n' :: rest => mapValue (fun _ => none) (word ['u', 'l', 'l'] rest)
  | next => mapValue some (read next)

/-- A list of values. -/
def listOf {α : Type} (read : Nat → Reader α) (depth : Nat) : Reader (List α) := fun chars =>
  match skipSpaces chars with
  | '[' :: rest =>
      match depth with
      | 0 => .error .malformed
      | depth + 1 => items (read depth) rest
  | _ => .error (unwanted chars)

/-- A table of values under distinct keys. -/
def tableOf {α : Type} (read : Nat → Reader α) (depth : Nat) : Reader (List (String × α)) :=
  fun chars =>
    match skipSpaces chars with
    | '{' :: rest =>
        match depth with
        | 0 => .error .malformed
        | depth + 1 => mapValue Table.ofEntries (entries quoted (read depth) rest)
    | _ => .error (unwanted chars)

/-- A field of a record whose slots are a `σ`. -/
structure Field (σ : Type) where
  /-- The name. -/
  name : String
  /-- Whether its slot is filled. -/
  filled : σ → Bool
  /-- Read its value into its slot, where containers nest no deeper than a limit. -/
  fill : Nat → σ → Reader σ

/-- A field that is kept in an optional slot. -/
def Field.slot {σ α : Type} (name : String) (get : σ → Option α) (put : σ → α → σ)
    (read : Nat → Reader α) : Field σ where
  name := name
  filled slots := (get slots).isSome
  fill depth slots := fun chars => mapValue (put slots) (read depth chars)

/-- How a record is read. -/
structure Shape (σ : Type) where
  /-- The fields in order. -/
  fields : List (Field σ)
  /-- What is done with a field of another name. -/
  other : String → Nat → σ → Reader σ
  /-- Whether a list of the fields in order is accepted. -/
  positional : Bool

/-- Pass over a field. -/
def passOver {σ : Type} (slots : σ) : Reader σ := fun chars =>
  mapValue (fun _ => slots) (skip chars)

variable {σ : Type}

/-- Read one entry of a table, from after the opening quote of its key on. -/
def Shape.entry (shape : Shape σ) (depth : Nat) (slots : σ) : Reader σ := fun chars => do
  let (name, rest) ← quoted chars
  match shape.fields.find? fun field => field.name == name with
  | some field =>
      if field.filled slots then .error .mismatch
      else afterColon (field.fill depth slots) rest
  | none => afterColon (shape.other name depth slots) rest

/-- The entries after the first one, up to the closing brace. -/
def Shape.more (shape : Shape σ) (depth : Nat) : Nat → σ → Reader σ
  | 0, _, _ => .error .ended
  | fuel + 1, slots, chars =>
      match skipSpaces chars with
      | [] => .error .ended
      | '}' :: rest => .ok (slots, rest)
      | ',' :: rest =>
          match skipSpaces rest with
          | [] => .error .ended
          | '"' :: rest => do
              let (slots, rest) ← shape.entry depth slots rest
              more shape depth fuel slots rest
          | _ => .error .malformed
      | _ => .error .malformed

/-- The entries after an opening brace. -/
def Shape.table (shape : Shape σ) (depth : Nat) (slots : σ) : Reader σ := fun chars =>
  match skipSpaces chars with
  | [] => .error .ended
  | '}' :: rest => .ok (slots, rest)
  | '"' :: rest => do
      let (slots, rest) ← shape.entry depth slots rest
      shape.more depth chars.length slots rest
  | _ => .error .malformed

/-- The end of a list in which no item may follow. -/
def closing : Reader Unit := fun chars =>
  match skipSpaces chars with
  | [] => .error .ended
  | ']' :: rest => .ok ((), rest)
  | _ => .error .malformed

/-- The fields of a list after the first one; those at the end may be missing. -/
def moreInOrder (depth : Nat) : List (Field σ) → σ → Reader σ
  | [], slots, chars => mapValue (fun _ => slots) (closing chars)
  | field :: fields, slots, chars =>
      match skipSpaces chars with
      | [] => .error .ended
      | ']' :: rest => .ok (slots, rest)
      | ',' :: rest =>
          match skipSpaces rest with
          | [] => .error .ended
          | ']' :: _ => .error .malformed
          | next => do
              let (slots, rest) ← field.fill depth slots next
              moreInOrder depth fields slots rest
      | _ => .error .malformed

/-- The fields of a list after its opening bracket; those at the end may be missing. -/
def inOrder (depth : Nat) : List (Field σ) → σ → Reader σ
  | [], slots, chars => mapValue (fun _ => slots) (closing chars)
  | field :: fields, slots, chars =>
      match skipSpaces chars with
      | [] => .error .ended
      | ']' :: rest => .ok (slots, rest)
      | next => do
          let (slots, rest) ← field.fill depth slots next
          moreInOrder depth fields slots rest

/-- Read the slots of a record, from a table or, where that is allowed, from a list. -/
def Shape.slots (shape : Shape σ) (start : σ) (depth : Nat) : Reader σ := fun chars =>
  match skipSpaces chars with
  | '{' :: rest =>
      match depth with
      | 0 => .error .malformed
      | depth + 1 => shape.table depth start rest
  | '[' :: rest =>
      if shape.positional then
        match depth with
        | 0 => .error .malformed
        | depth + 1 => inOrder depth shape.fields start rest
      else .error .mismatch
  | _ => .error (unwanted chars)

/-- Read the slots of a record and make the record of them, if they suffice. -/
def Shape.read {α : Type} (shape : Shape σ) (start : σ) (finish : σ → Option α) (depth : Nat) :
    Reader α := fun chars => do
  let (slots, rest) ← shape.slots start depth chars
  match finish slots with
  | some record => .ok (record, rest)
  | none => .error .mismatch

end Json
end Storyboard
