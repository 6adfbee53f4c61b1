import BlankUse.Basic

/-!
Strings as data may hold them. A code point is a character or half of a surrogate pair, which is no
character; a string with such a half in it is no Unicode text.
-/

namespace BlankUse

inductive CodePoint where
  | char (value : Char)
  | surrogate (code : Nat)
  deriving DecidableEq, Repr

abbrev Points := List CodePoint

namespace Points

def ofText (text : Text) : Points := text.map .char

def toText? (points : Points) : Option Text :=
  points.mapM fun
    | .char value => some value
    | .surrogate _ => none

/-- The text with a replacement character for every half of a pair. -/
def standIn (points : Points) : Text :=
  points.map fun
    | .char value => value
    | .surrogate _ => Char.ofNat 0xFFFD

end Points

end BlankUse
