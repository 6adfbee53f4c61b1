import BlankUse.Deletion
import BlankUse.Text.Utf8

/-!
Fake usages of a Go variable. A usage is written at the end of a line as
`; _ = name /* TODO: tool */`. After formatting it stands on a line of its own, without the
semicolon. Both forms are recognised by the comment that names the tool, and removal tries the
appended form first.
-/

namespace BlankUse

structure Marker where
  tool : Text
  deriving DecidableEq, Repr

namespace Marker

open Byte

def ascii (text : Text) : Bytes := text.map fun c => c.toNat.toUInt8

def opening : Bytes := [semicolon, space, underscore, space, equals]

def comment (marker : Marker) : Bytes :=
  ascii ['/', '*', ' ', 'T', 'O', 'D', 'O', ':', ' '] ++ Utf8.encode marker.tool ++
    ascii [' ', '*', '/']

def closing (marker : Marker) : Bytes := space :: marker.comment

def render (marker : Marker) (name : Text) : Bytes :=
  opening ++ space :: Utf8.encode name ++ marker.closing

/-- The distance to the end of the last closing that starts before the line ends. `offset` bytes
have been passed, and `found` is the distance to the end of the last closing seen. -/
def lastClosing (closing : Bytes) (offset : Nat) (found : Option Nat) : Bytes → Option Nat
  | [] => found
  | byte :: rest =>
    let found := if closing.isPrefixOf (byte :: rest) then some (offset + closing.length) else found
    if byte == newline then found else lastClosing closing (offset + 1) found rest

/-- From `; _ =` through the last closing on the line, whatever stands between. -/
def appended (marker : Marker) : Pattern := fun code =>
  if opening.isPrefixOf code then
    lastClosing marker.closing opening.length none (code.drop opening.length)
  else none

def isNameByte (byte : UInt8) : Bool := !(isBlank byte || byte == semicolon || byte == equals)

/-- Blanks whose last one is the space of the closing, then the comment. -/
def closingWidth (marker : Marker) (code : Bytes) : Option Nat :=
  let blanks := code.takeWhile isBlank
  if blanks.getLast? = some space ∧ marker.comment.isPrefixOf (code.dropWhile isBlank) then
    some (blanks.length + marker.comment.length)
  else none

def nameWidth (marker : Marker) (code : Bytes) : Option Nat :=
  (marker.closingWidth (code.dropWhile isNameByte)).map
    ((code.takeWhile isNameByte).length + ·)

/-- Blanks, `_`, blanks, `= `, a name and the closing. -/
def ownLine (marker : Marker) : Pattern := fun code =>
  match code.dropWhile isBlank with
  | [] => none
  | byte :: afterBlanks =>
    if byte == underscore then
      match afterBlanks.dropWhile isBlank with
      | first :: second :: rest =>
        if first == equals && second == space then
          (marker.nameWidth rest).map fun width =>
            (code.takeWhile isBlank).length + (afterBlanks.takeWhile isBlank).length + 3 + width
        else none
      | _ => none
    else none

inductive Form where
  | appended
  | ownLine
  deriving DecidableEq, Repr

def Form.word : Form → String
  | .appended => "canonical"
  | .ownLine => "gofmted"

structure Removal where
  form : Form
  count : Nat
  code : Bytes
  deriving DecidableEq, Repr

def remove (form : Form) (pattern : Pattern) (code : Bytes) : Option Removal :=
  let deleted := pattern.deleteAll code
  if deleted.count = 0 then none else some ⟨form, deleted.count, deleted.bytes⟩

/-- Removes the appended usages or, if there are none, those on lines of their own. -/
def strip (marker : Marker) (code : Bytes) : Option Removal :=
  (remove .appended marker.appended code).or (remove .ownLine marker.ownLine code)

def Removal.message (removal : Removal) : String :=
  s!"Removed {removal.count} {removal.form.word} fake usage(s)"

end Marker

end BlankUse
