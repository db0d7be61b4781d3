/-!
# Reading JSON text

A reader takes a value off the front of a text and returns it with the rest.
When it cannot, it says whether the text ended too early, is malformed, or is
well formed but not of the wanted shape.
-/

namespace Storyboard
namespace Json

/-- Why a text cannot be read. -/
inductive Failure where
  /-- The text ends before the value does. -/
  | ended
  /-- The text is not JSON, or nests too deeply, or holds a number out of range. -/
  | malformed
  /-- The text is JSON of another shape than the wanted one. -/
  | mismatch
  deriving DecidableEq, Inhabited

/-- A value read off the front of a text, and the rest of it. -/
abbrev Reader (α : Type) := List Char → Except Failure (α × List Char)

/-- Whether a character may stand between the parts of a text. -/
def isSpace (c : Char) : Bool :=
  c == ' ' || c == '\n' || c == '\t' || c == '\r'

/-- The text from its first part on. -/
def skipSpaces (text : List Char) : List Char :=
  text.dropWhile isSpace

/-- The rest of a fixed word. -/
def word : List Char → Reader Unit
  | [], text => .ok ((), text)
  | _ :: _, [] => .error .ended
  | expected :: more, c :: rest =>
      if c = expected then word more rest else .error .malformed

/-- The value of a hexadecimal digit. -/
def hexDigit? (c : Char) : Option Nat :=
  if '0' ≤ c ∧ c ≤ '9' then some (c.toNat - '0'.toNat)
  else if 'a' ≤ c ∧ c ≤ 'f' then some (c.toNat - 'a'.toNat + 10)
  else if 'A' ≤ c ∧ c ≤ 'F' then some (c.toNat - 'A'.toNat + 10)
  else none

/-- The number of bytes that a text takes. -/
def byteCount (text : List Char) : Nat :=
  text.foldl (fun count c => count + c.utf8Size) 0

/-- The value of four hexadecimal digits, if all four are. -/
def hexQuad? (a b c d : Char) : Option Nat :=
  match hexDigit? a, hexDigit? b, hexDigit? c, hexDigit? d with
  | some a, some b, some c, some d => some (((a * 16 + b) * 16 + c) * 16 + d)
  | _, _, _, _ => none

/-- What goes wrong where four hexadecimal digits should stand. -/
def quadFailure (text : List Char) : Failure :=
  if byteCount (text.take 4) < 4 then .ended else .malformed

/-- Whether a number is the first half of a pair of units. -/
def isHighUnit (unit : Nat) : Bool := 0xd800 ≤ unit && unit ≤ 0xdbff

/-- Whether a number is the second half of a pair of units. -/
def isLowUnit (unit : Nat) : Bool := 0xdc00 ≤ unit && unit ≤ 0xdfff

/-- The character of a pair of units. -/
def pairChar (high low : Nat) : Char :=
  Char.ofNat ((high - 0xd800) * 0x400 + (low - 0xdc00) + 0x10000)

/-- The character of a one-letter escape. -/
def escaped? : Char → Option Char
  | '"' => some '"'
  | '\\' => some '\\'
  | '/' => some '/'
  | 'b' => some '\x08'
  | 'f' => some '\x0c'
  | 'n' => some '\n'
  | 'r' => some '\r'
  | 't' => some '\t'
  | _ => none

/-- Put a character before the text that a reader returned. -/
def before (c : Char) : Except Failure (List Char × List Char) →
    Except Failure (List Char × List Char)
  | .ok (chars, rest) => .ok (c :: chars, rest)
  | .error failure => .error failure

/-- The characters up to the closing quote. -/
def quotedChars : Reader (List Char)
  | [] => .error .ended
  | '"' :: rest => .ok ([], rest)
  | '\\' :: 'u' :: a :: b :: c :: d :: rest =>
      match hexQuad? a b c d with
      | none => .error (quadFailure [a, b, c, d])
      | some unit =>
          if isLowUnit unit then .error .malformed
          else if isHighUnit unit then
            match rest with
            | '\\' :: 'u' :: e :: f :: g :: h :: more =>
                match hexQuad? e f g h with
                | none => .error (quadFailure [e, f, g, h])
                | some low =>
                    if isLowUnit low then before (pairChar unit low) (quotedChars more)
                    else .error .malformed
            | '\\' :: 'u' :: more => .error (quadFailure more)
            | [] => .error .ended
            | ['\\'] => .error .ended
            | _ => .error .malformed
          else before (Char.ofNat unit) (quotedChars rest)
  | '\\' :: 'u' :: rest => .error (quadFailure rest)
  | '\\' :: c :: rest =>
      match escaped? c with
      | some character => before character (quotedChars rest)
      | none => .error .malformed
  | ['\\'] => .error .ended
  | c :: rest => if c.toNat < 0x20 then .error .malformed else before c (quotedChars rest)

/-- The text up to the closing quote. -/
def quoted : Reader String := fun text =>
  match quotedChars text with
  | .ok (chars, rest) => .ok (String.ofList chars, rest)
  | .error failure => .error failure

/-- Pass over the characters up to the closing quote; escapes need not name a character. -/
def skipQuoted : Reader Unit
  | [] => .error .ended
  | '"' :: rest => .ok ((), rest)
  | '\\' :: 'u' :: a :: b :: c :: d :: rest =>
      match hexQuad? a b c d with
      | none => .error (quadFailure [a, b, c, d])
      | some _ => skipQuoted rest
  | '\\' :: 'u' :: rest => .error (quadFailure rest)
  | '\\' :: c :: rest =>
      match escaped? c with
      | some _ => skipQuoted rest
      | none => .error .malformed
  | ['\\'] => .error .ended
  | c :: rest => if c.toNat < 0x20 then .error .malformed else skipQuoted rest

/-- The text after the colon that follows a key. -/
def colon : Reader Unit := fun text =>
  match skipSpaces text with
  | [] => .error .ended
  | ':' :: rest => .ok ((), rest)
  | _ => .error .malformed

/-- A value in its key's place: the colon comes first. -/
def afterColon {α : Type} (read : Reader α) : Reader α := fun text =>
  match colon text with
  | .ok (_, rest) => read rest
  | .error failure => .error failure

/-- A whole text: a value with nothing but spaces after it. -/
def whole {α : Type} (read : Reader α) (text : List Char) : Except Failure α :=
  match read text with
  | .ok (value, rest) => if skipSpaces rest = [] then .ok value else .error .malformed
  | .error failure => .error failure

end Json
end Storyboard
