import BlankUse.Basic
import BlankUse.Text.Table.Letter
import BlankUse.Text.Table.Mark
import BlankUse.Text.Table.Numeral
import BlankUse.Text.Table.Unprintable

/-!
Classes of characters. ASCII is decided by rule and everything else by tables of ranges, so a fact
about an ASCII character needs no table. Two word classes are in use: names in compiler messages
take numerals of every kind, and tool names take marks and joiners instead.
-/

namespace BlankUse.Text

def inRanges (ranges : List (Nat × Nat)) (c : Char) : Bool :=
  ranges.any fun range => range.1 ≤ c.toNat && c.toNat ≤ range.2

def isAscii (c : Char) : Bool := c.toNat < 0x80

def isAsciiWord (c : Char) : Bool := c.isAlphanum || c == '_'

/-- A letter, a character with a numeric value, or the low line. -/
def isWord (c : Char) : Bool :=
  if isAscii c then isAsciiWord c else inRanges Table.letter c || inRanges Table.numeral c

/-- A letter, a combining mark, a decimal digit, connecting punctuation or a joiner. -/
def isLabel (c : Char) : Bool :=
  if isAscii c then isAsciiWord c else inRanges Table.letter c || inRanges Table.mark c

def isWhite (c : Char) : Bool :=
  inRanges [(0x09, 0x0D), (0x20, 0x20), (0x85, 0x85), (0xA0, 0xA0), (0x1680, 0x1680),
    (0x2000, 0x200A), (0x2028, 0x2029), (0x202F, 0x202F), (0x205F, 0x205F), (0x3000, 0x3000)] c

/-- Space characters, and the four ASCII separators of files, groups, records and units. -/
def isBlank (c : Char) : Bool := isWhite c || inRanges [(0x1C, 0x1F)] c

def isPrintable (c : Char) : Bool :=
  if isAscii c then 0x20 ≤ c.toNat && c.toNat < 0x7F else !inRanges Table.unprintable c

/-- The zeros of all scripts; the digits one to nine follow each of them. -/
def zeros : List Nat :=
  [0x30, 0x660, 0x6F0, 0x7C0, 0x966, 0x9E6, 0xA66, 0xAE6, 0xB66, 0xBE6, 0xC66, 0xCE6, 0xD66, 0xDE6,
    0xE50, 0xED0, 0xF20, 0x1040, 0x1090, 0x17E0, 0x1810, 0x1946, 0x19D0, 0x1A80, 0x1A90, 0x1B50,
    0x1BB0, 0x1C40, 0x1C50, 0xA620, 0xA8D0, 0xA900, 0xA9D0, 0xA9F0, 0xAA50, 0xABF0, 0xFF10, 0x104A0,
    0x10D30, 0x11066, 0x110F0, 0x11136, 0x111D0, 0x112F0, 0x11450, 0x114D0, 0x11650, 0x116C0,
    0x11730, 0x118E0, 0x11950, 0x11C50, 0x11D50, 0x11DA0, 0x16A60, 0x16AC0, 0x16B50, 0x1D7CE,
    0x1D7D8, 0x1D7E2, 0x1D7EC, 0x1D7F6, 0x1E140, 0x1E2F0, 0x1E950, 0x1FBF0]

def digit? (c : Char) : Option Nat :=
  zeros.findSome? fun first =>
    if first ≤ c.toNat ∧ c.toNat < first + 10 then some (c.toNat - first) else none

def isDigit (c : Char) : Bool := (digit? c).isSome

def trim (member : Char → Bool) (text : Text) : Text :=
  ((text.dropWhile member).reverse.dropWhile member).reverse

end BlankUse.Text
