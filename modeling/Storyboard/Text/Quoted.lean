import Storyboard.Text.PrintableSpans

/-!
# Quoted text

Text between double quotes for inspection.  Quotes and backslashes are escaped,
common controls by a letter, and every other character that does not stand alone
in print by its code point.
-/

namespace Storyboard
namespace Text

/-- Whether a character can be shown by itself. -/
def isPrintable (c : Char) : Bool :=
  !covered joiningSpans c.toNat && !covered glyphlessSpans c.toNat

/-- The escape of a code point: its hexadecimal digits between braces. -/
def codeEscape (c : Char) : List Char :=
  ['\\', 'u', '{'] ++ Nat.toDigits 16 c.toNat ++ ['}']

/-- How a character is written between quotes. -/
def quotedChar (c : Char) : List Char :=
  if c = '"' then ['\\', '"']
  else if c = '\\' then ['\\', '\\']
  else if c = '\n' then ['\\', 'n']
  else if c = '\r' then ['\\', 'r']
  else if c = '\t' then ['\\', 't']
  else if c.toNat = 0 then ['\\', '0']
  else if isPrintable c then [c]
  else codeEscape c

/-- A text between quotes. -/
def quoted (text : String) : List Char :=
  '"' :: text.toList.flatMap quotedChar ++ ['"']

end Text
end Storyboard
