import BlankUse.Text.Quoted

/-!
A place in a YAML text and the characters that matter there. Lines end at a line feed, a next-line
character, or a line or paragraph separator. Blanks between tokens are spaces only: a tab is no
blank, so a token never starts behind one.
-/

namespace BlankUse.Yaml

inductive Misreading where
  | value (message : String)
  | word (text : Points)
  | noDigits
  | noDate
  | noText
  | code
  | factor
  | endless
  | tooDeep
  deriving DecidableEq, Repr

def Misreading.message : Misreading → String
  | value message => message
  | word text => String.ofList (Text.quotedPoints text)
  | noDigits => "string index out of range"
  | noDate => "'NoneType' object has no attribute 'groupdict'"
  | noText => "expected string or bytes-like object, got 'list'"
  | code => "Python int too large to convert to C int"
  | factor => "int too large to convert to float"
  | endless => "maximum recursion depth exceeded"
  | tooDeep => "maximum recursion depth exceeded"

inductive Fault where
  | malformed
  | unreadable (misreading : Misreading)
  deriving DecidableEq, Repr

def Fault.badValue (message : String) : Fault := .unreadable (.value message)

def isBreak (c : Char) : Bool :=
  c == '\n' || c == Char.ofNat 0x85 || c == Char.ofNat 0x2028 || c == Char.ofNat 0x2029

/-- Line separators keep their character when a scalar holds them; other line ends are line feeds. -/
def breakText (c : Char) : Char := if c == Char.ofNat 0x85 then '\n' else c

def endsToken : Option Char → Bool
  | none => true
  | some c => c == ' ' || c == '\t' || isBreak c

def endsLine : Option Char → Bool
  | none => true
  | some c => isBreak c

def isAllowed (c : Char) : Bool :=
  let value := c.toNat
  c == '\t' || c == '\n' || c == '\r' || (0x20 ≤ value && value ≤ 0x7E) || value == 0x85 ||
    (0xA0 ≤ value && value ≤ 0xFFFD) || 0x10000 ≤ value

/-- Line and column count from zero. A key of a block map can start only where `keyAllowed` says so:
at the start of a line, and behind an indicator that opens an entry. -/
structure Place where
  line : Nat
  column : Nat
  offset : Nat
  keyAllowed : Bool
  deriving DecidableEq, Repr

def byteOrderMark : Char := Char.ofNat 0xFEFF

namespace Place

def start : Place := ⟨0, 0, 0, true⟩

def after (place : Place) (c : Char) : Place :=
  if isBreak c then { place with line := place.line + 1, column := 0, offset := place.offset + 1 }
  else if c == byteOrderMark then { place with offset := place.offset + 1 }
  else { place with column := place.column + 1, offset := place.offset + 1 }

def afterAll (place : Place) (text : Text) : Place := text.foldl after place

def allow (place : Place) (keyAllowed : Bool) : Place := { place with keyAllowed }

end Place

structure Cursor where
  place : Place
  rest : Text
  deriving DecidableEq, Repr

namespace Cursor

def head? (cursor : Cursor) : Option Char := cursor.rest.head?

def second? (cursor : Cursor) : Option Char := (cursor.rest.drop 1).head?

def column (cursor : Cursor) : Int := cursor.place.column

def advance (count : Nat) (cursor : Cursor) : Cursor :=
  ⟨cursor.place.afterAll (cursor.rest.take count), cursor.rest.drop count⟩

def allow (keyAllowed : Bool) (cursor : Cursor) : Cursor :=
  { cursor with place := cursor.place.allow keyAllowed }

end Cursor

/-- Three dashes or three points that stand alone. -/
def isMarker (text : Text) : Bool :=
  match text with
  | a :: b :: c :: rest =>
    ((a == '-' && b == '-' && c == '-') || (a == '.' && b == '.' && c == '.')) &&
      endsToken rest.head?
  | _ => false

def Cursor.atMarker (cursor : Cursor) : Bool := cursor.place.column == 0 && isMarker cursor.rest

/-- Skips spaces, comments and line ends. Outside brackets a line end lets a key start. -/
def skipLoop (bracketed comment : Bool) (place : Place) : Text → Cursor
  | [] => ⟨place, []⟩
  | c :: rest =>
    if isBreak c then
      skipLoop bracketed false ((place.after c).allow (place.keyAllowed || !bracketed)) rest
    else if comment || c == ' ' then skipLoop bracketed comment (place.after c) rest
    else if c == '#' then skipLoop bracketed true (place.after c) rest
    else ⟨place, c :: rest⟩

def Cursor.skip (bracketed : Bool) (cursor : Cursor) : Cursor :=
  skipLoop bracketed false cursor.place cursor.rest

end BlankUse.Yaml
