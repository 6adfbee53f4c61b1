import BlankUse.Diagnostic
import BlankUse.Marker

/-!
Code as a buffer of lines, and the edits a toggle makes to it. An edit changes one line in place,
so the number of lines never changes. A list of edits is applied in order and stops at the first
one that lies outside the buffer; the edits before it stay.
-/

namespace BlankUse.LineBuffer

def ofCode (code : Bytes) : List Bytes := splitOn Byte.newline code

def toCode (lines : List Bytes) : Bytes := List.intercalate [Byte.newline] lines

structure Edit where
  line : Int
  change : Bytes → Bytes

structure Edited where
  lines : List Bytes
  problem : Option Diagnostic.Problem
  deriving DecidableEq, Repr

def Inside (lines : List Bytes) (line : Int) : Prop := 0 ≤ line ∧ line < lines.length

instance (lines : List Bytes) (line : Int) : Decidable (Inside lines line) :=
  inferInstanceAs (Decidable (_ ∧ _))

def applyEdits : List Edit → List Bytes → Edited
  | [], lines => ⟨lines, none⟩
  | edit :: rest, lines =>
    if Inside lines edit.line then
      applyEdits rest (lines.modify edit.line.toNat edit.change)
    else ⟨lines, some (.ofOutside edit.line lines.length)⟩

def commentMark : Bytes := [Byte.slash, Byte.slash, Byte.space]

def comment (line : Bytes) : Bytes := commentMark ++ line

/-- Drops as many characters as the comment mark has; a byte that belongs to no character counts
as one. -/
def dropComment (line : Bytes) : Bytes :=
  Utf8.ofGlyphs ((Utf8.glyphs line).drop commentMark.length)

/-- Adds text at the end of a line, before a carriage return if the line ends in one. -/
def appendBeforeReturn (addition line : Bytes) : Bytes :=
  if line.getLast? = some Byte.carriageReturn then
    line.dropLast ++ addition ++ [Byte.carriageReturn]
  else line ++ addition

/-- The buffer after lines were commented out, and their numbers in the order in which that was done. -/
structure Commented extends Edited where
  numbers : List Int
  deriving DecidableEq, Repr

def commentOut (numbers : List Int) (lines : List Bytes) : Commented where
  toEdited := applyEdits (numbers.map fun number => ⟨number, comment⟩) lines
  numbers := numbers.takeWhile fun number => Inside lines number

def appendUsages (marker : Marker) (findings : List Finding) : List Bytes → Edited :=
  applyEdits (findings.map fun finding =>
    ⟨finding.line, appendBeforeReturn (marker.render finding.name)⟩)

def uncomment (numbers : List Int) : List Bytes → Edited :=
  applyEdits (numbers.map fun number => ⟨number, dropComment⟩)

end BlankUse.LineBuffer
