/-!
Code is a list of bytes and text is a list of characters. Both are cut into lines the same way.
-/

namespace BlankUse

abbrev Bytes := List UInt8
abbrev Text := List Char

/-- How many calls may be open at once while nested data is read or written. How deep it may be
nested is estimated from that. -/
def callLimit : Nat := 1000

namespace Byte

def newline : UInt8 := 0x0A
def carriageReturn : UInt8 := 0x0D
def space : UInt8 := 0x20
def slash : UInt8 := 0x2F
def semicolon : UInt8 := 0x3B
def equals : UInt8 := 0x3D
def underscore : UInt8 := 0x5F

/-- Space, tab, line feed, vertical tab, form feed and carriage return. -/
def isBlank (byte : UInt8) : Bool := byte == space || (0x09 ≤ byte && byte ≤ 0x0D)

end Byte

/-- The loop of `splitOn`: `piece` is the open piece and `done` the closed ones, both last first. -/
def splitLoop {Item : Type} [BEq Item] (separator : Item) (piece : List Item)
    (done : List (List Item)) : List Item → List (List Item)
  | [] => (piece.reverse :: done).reverse
  | item :: rest =>
    if item == separator then splitLoop separator [] (piece.reverse :: done) rest
    else splitLoop separator (item :: piece) done rest

def splitOn {Item : Type} [BEq Item] (separator : Item) (items : List Item) : List (List Item) :=
  splitLoop separator [] [] items

end BlankUse
