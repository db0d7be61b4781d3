import Storyboard.Json.Reader

/-!
# Percent encoding

A byte that may not stand for itself is written as a percent sign and two
hexadecimal digits.
-/

namespace Storyboard
namespace Web

/-- The bytes of a text. -/
def bytesOf (chars : List Char) : List UInt8 :=
  chars.flatMap String.utf8EncodeChar

/-- The text that bytes encode, if they encode one. -/
def textOf? (bytes : List UInt8) : Option String :=
  String.fromUTF8? ⟨bytes.toArray⟩

/-- The bytes of a text encode it. -/
@[simp] theorem textOf?_bytesOf (text : String) : textOf? (bytesOf text.toList) = some text := by
  have bytes : (⟨(bytesOf text.toList).toArray⟩ : ByteArray) = text.toByteArray := by
    rw [← String.utf8Encode_toList, List.utf8Encode, ← List.data_toByteArray]
    rfl
  rw [textOf?, bytes, String.fromUTF8?, dif_pos text.isValidUTF8]
  rfl

/-- A byte written as an escape. -/
def escapedByte (byte : UInt8) : List Char :=
  let digit (n : Nat) : Char := (Nat.digitChar n).toUpper
  ['%', digit (byte.toNat / 16), digit (byte.toNat % 16)]

/-- Whether a character is a control or outside the first 128. -/
def isControl (c : Char) : Bool :=
  c.toNat < 0x20 || 0x7e < c.toNat

/-- A text in which the characters of a set, and all controls, are written as escapes. -/
def escape (reserved : List Char) (chars : List Char) : List Char :=
  chars.flatMap fun c =>
    if isControl c || reserved.contains c then (String.utf8EncodeChar c).flatMap escapedByte
    else [c]

/-- The bytes of a text in which every escape stands for its byte. -/
def unescape : List Char → List UInt8
  | [] => []
  | '%' :: a :: b :: rest =>
      match Json.hexDigit? a, Json.hexDigit? b with
      | some high, some low => UInt8.ofNat (high * 16 + low) :: unescape rest
      | _, _ => String.utf8EncodeChar '%' ++ unescape (a :: b :: rest)
  | c :: rest => String.utf8EncodeChar c ++ unescape rest

end Web
end Storyboard
