import Storyboard.Decimal.Style
import Storyboard.Web.Domain
import Storyboard.Web.Percent

/-!
# Hosts

The host of an address is a domain, a number of four bytes, or, between brackets, a
number of eight groups.  Each is brought to one written form.
-/

namespace Storyboard
namespace Web
namespace Host

/-- A decimal digit. -/
def isDecimal (c : Char) : Bool := '0' ≤ c && c ≤ '9'

/-- The number that digits spell in a base. -/
def numeralValue? (base : Nat) (digits : List Char) : Option Nat :=
  digits.foldlM
    (fun value c =>
      match Json.hexDigit? c with
      | some digit => if digit < base then some (value * base + digit) else none
      | none => none) 0

/-- The number of one part of four: decimal, octal after a zero, or hexadecimal after `0x`. -/
def partValue? : List Char → Option Nat
  | [] => none
  | '0' :: 'x' :: digits => numeralValue? 16 digits
  | '0' :: 'X' :: digits => numeralValue? 16 digits
  | '0' :: c :: digits => numeralValue? 8 (c :: digits)
  | digits => numeralValue? 10 digits

/-- The parts between dots, without an empty one at the end. -/
def dottedParts (host : List Char) : List (List Char) :=
  let parts := Text.splitAt '.' host
  if parts.length > 1 ∧ parts.getLast? = some [] then parts.dropLast else parts

/-- Whether the last part of a host is a number, so that the host has to be one. -/
def endsInNumber (host : List Char) : Bool :=
  match (dottedParts host).getLast? with
  | some last => (!last.isEmpty && last.all isDecimal) || (partValue? last).isSome
  | none => false

/-- The number that parts stand for: the last one fills all bytes that are left. -/
def combine? (parts : List Nat) : Option Nat :=
  match parts.reverse with
  | [] => none
  | last :: others =>
      let count := others.length
      if 4 ≤ count ∨ others.any (255 < ·) ∨ Nat.pow 256 (4 - count) ≤ last then none
      else some (others.reverse.foldl (fun value part => value * 256 + part) 0 *
        Nat.pow 256 (4 - count) + last)

/-- The written form of a number of four bytes. -/
def quad (value : Nat) : List Char :=
  Text.joinWith ['.'] ([value / Nat.pow 2 24, value / Nat.pow 2 16 % 256,
    value / Nat.pow 2 8 % 256, value % 256].map Decimal.natChars)

/-- A host that has to be a number of four bytes. -/
def fourBytes? (host : List Char) : Option (List Char) := do
  let parts ← (dottedParts host).mapM partValue?
  return quad (← combine? parts)

/-- One byte between dots, without leading zeros. -/
def byteValue? (digits : List Char) : Option Nat :=
  if digits.isEmpty ∨ 3 < digits.length ∨ !digits.all isDecimal then none
  else if digits.head? = some '0' ∧ digits.length ≠ 1 then none
  else (numeralValue? 10 digits).filter (· < 256)

/-- The groups that one item between colons stands for; the last item may be four bytes. -/
def groups? (last : Bool) (item : List Char) : Option (List Nat) :=
  if item.contains '.' then
    if last then
      match (Text.splitAt '.' item).mapM byteValue? with
      | some [a, b, c, d] => some [a * 256 + b, c * 256 + d]
      | _ => none
    else none
  else if item.isEmpty ∨ 4 < item.length then none
  else (numeralValue? 16 item).map ([·])

/-- The groups of items between colons. -/
def allGroups? (lastMayBeBytes : Bool) : List (List Char) → Option (List Nat)
  | [] => some []
  | [item] => groups? lastMayBeBytes item
  | item :: items => do
      let first ← groups? false item
      return first ++ (← allGroups? lastMayBeBytes items)

/-- The texts before and after the first double colon, if there is one. -/
def aroundGap? : List Char → Option (List Char × List Char)
  | ':' :: ':' :: rest => some ([], rest)
  | c :: rest => (aroundGap? rest).map fun (left, right) => (c :: left, right)
  | [] => none

/-- The items between single colons; an empty text has none. -/
def items (text : List Char) : List (List Char) :=
  if text = [] then [] else Text.splitAt ':' text

/-- The eight groups of a text between brackets. -/
def eightGroups? (text : List Char) : Option (List Nat) :=
  match aroundGap? text with
  | none => (allGroups? true (items text)).filter (·.length == 8)
  | some (left, right) => do
      let before ← allGroups? false (items left)
      let after ← allGroups? true (items right)
      if before.length + after.length ≤ 7 then
        return before ++ List.replicate (8 - before.length - after.length) 0 ++ after
      else none

/-- How many zeros a list starts with. -/
def leadingZeros (groups : List Nat) : Nat := (groups.takeWhile (· == 0)).length

/-- The place and the length of the first of the longest runs of zeros. -/
def longestGap (groups : List Nat) : Nat × Nat :=
  (List.range groups.length).foldl
    (fun best start =>
      let run := leadingZeros (groups.drop start)
      if best.2 < run then (start, run) else best) (0, 0)

/-- Groups in hexadecimal with colons between them. -/
def writtenGroups (groups : List Nat) : List Char :=
  Text.joinWith [':'] (groups.map (Nat.toDigits 16))

/-- The written form of eight groups: the longest run of zeros is left out. -/
def eightWritten (groups : List Nat) : List Char :=
  let (start, run) := longestGap groups
  if run < 2 then '[' :: writtenGroups groups ++ [']']
  else
    '[' :: writtenGroups (groups.take start) ++ [':', ':'] ++
      writtenGroups (groups.drop (start + run)) ++ [']']

/-- A host between brackets. -/
def bracketed? (host : List Char) : Option (List Char) :=
  if host.getLast? = some ']' then (eightGroups? (host.drop 1).dropLast).map eightWritten
  else none

/-- The written form of the host of a web address. -/
def parse? (host : List Char) : Option (List Char) :=
  if host.head? = some '[' then bracketed? host
  else do
    let domain ← Domain.written? (← textOf? (unescape host))
    if endsInNumber domain then fourBytes? domain else some domain

/-- Characters that may not stand in the host of an address of an unknown scheme. -/
def barredOpaque : List Char :=
  ['\x00', '\t', '\n', '\r', ' ', '#', '/', ':', '<', '>', '?', '@', '[', '\\', ']', '^', '|']

/-- Whether a text may be the host of an address of an unknown scheme. -/
def isOpaque (host : List Char) : Bool :=
  if host.head? = some '[' then (bracketed? host).isSome
  else !host.any barredOpaque.contains

end Host
end Web
end Storyboard
