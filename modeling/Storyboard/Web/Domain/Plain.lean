import Storyboard.Text.Case
import Storyboard.Text.PrintableSpans
import Storyboard.Text.Parts
import Storyboard.Web.Domain.PlainTable

/-!
# What a character of a domain stands for

Before a domain is looked at, each of its characters is replaced by its plain form.
Some characters are left out, and some may not stand in a domain at all.
-/

namespace Storyboard
namespace Web
namespace Domain

/-- The spans of the characters that are left out: hyphens that do not show, joiners of words,
selectors of variants and fillers. -/
def ignoredSpans : List Text.Span :=
  [(0xad, 0xad), (0x34f, 0x34f), (0x115f, 0x1160), (0x17b4, 0x17b5), (0x180b, 0x180f),
   (0x200b, 0x200b), (0x2060, 0x2064), (0x206a, 0x206f), (0x3164, 0x3164), (0xfe00, 0xfe0f),
   (0xfeff, 0xfeff), (0xffa0, 0xffa0), (0x1bca0, 0x1bca3), (0x1d173, 0x1d17a),
   (0xe0100, 0xe01ef)]

/-- The spans of the characters with a glyph that may not stand in a domain: marks written on a
blank, numbers with a full stop, and signs that describe other characters. -/
def unfitSpans : List Text.Span :=
  [(0xa8, 0xa8), (0xaf, 0xaf), (0xb4, 0xb4), (0xb8, 0xb8), (0x2d8, 0x2dd), (0x37a, 0x37a),
   (0x384, 0x385), (0x1fbd, 0x1fbd), (0x1fbf, 0x1fc1), (0x1fcd, 0x1fcf), (0x1fdd, 0x1fdf),
   (0x1fed, 0x1fee), (0x1ffd, 0x1ffe), (0x2017, 0x2017), (0x2024, 0x2026), (0x203e, 0x203e),
   (0x2488, 0x249b), (0x2ff0, 0x2fff), (0x309b, 0x309c), (0x31ef, 0x31ef), (0x33c2, 0x33c2),
   (0x33c7, 0x33c7), (0x33d8, 0x33d8), (0xfc5e, 0xfc63), (0xfdfa, 0xfdfb), (0xfe12, 0xfe12),
   (0xfe19, 0xfe19), (0xfe30, 0xfe30), (0xfe49, 0xfe4c), (0xfe52, 0xfe52), (0xfe70, 0xfe70),
   (0xfe72, 0xfe72), (0xfe74, 0xfe74), (0xfe76, 0xfe76), (0xfe78, 0xfe78), (0xfe7a, 0xfe7a),
   (0xfe7c, 0xfe7c), (0xfe7e, 0xfe7e), (0xffe3, 0xffe3), (0xfffc, 0xfffd), (0x1f100, 0x1f100)]

/-- Whether a character is one of the two that join or part their neighbours. -/
def isJoiner (c : Char) : Bool := c.toNat == 0x200c || c.toNat == 0x200d

/-- Whether a character beyond the first 128 may not stand in a domain. -/
def isUnfit (c : Char) : Bool :=
  !isJoiner c &&
    (Text.covered Text.glyphlessSpans c.toNat || Text.covered unfitSpans c.toNat)

/-- Whether a character is a capital that a domain keeps: the plain form of its script. -/
def isKeptCapital (c : Char) : Bool := 0x13a0 ≤ c.toNat && c.toNat ≤ 0x13f5

/-- The plain forms, from a first character on. -/
def plainTable : List (Nat × Array (List Char)) :=
  plainRows.map fun (first, row) => (first, (Text.splitAt ' ' row.toList).toArray)

/-- The plain form of a character beyond the first 128, if the table has one. -/
def listed? (code : Nat) : Option (List Char) :=
  plainTable.findSome? fun (first, forms) =>
    if first ≤ code then forms[code - first]? else none

/-- The plain form of a character, if it may stand in a domain. -/
def plainChar? (c : Char) : Option (List Char) :=
  if c.toNat < 0x80 then some [c.toLower]
  else if Text.covered ignoredSpans c.toNat then some []
  else if isUnfit c then none
  else if isKeptCapital c then some [c]
  else some ((listed? c.toNat).getD (Text.lowerChar c))

end Domain
end Web
end Storyboard
