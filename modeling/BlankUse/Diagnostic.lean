import BlankUse.Text.Integer
import BlankUse.Text.Quoted

/-!
Compiler messages. A message of interest is `….go:LINE:COLUMN: ` followed by one of a few wordings,
and it names a symbol. The line field may be any token, so a message that is recognised can still
carry no usable line number; that is an error and not a message to skip.
-/

namespace BlankUse

inductive Kind where
  | missingProvider
  | unused
  deriving DecidableEq, Repr

def Kind.title : Kind → String
  | .missingProvider => "missing import provider"
  | .unused => "declared and not used"

inductive Wording where
  /-- `no required module provides package NAME` -/
  | noProvider
  /-- `declared and not used: NAME` -/
  | unusedBefore
  /-- `NAME declared and not used` and `NAME declared but not used` -/
  | unusedAfter
  deriving DecidableEq, Repr

/-- The wordings of a kind, the preferred one first. -/
def Kind.wordings : Kind → List Wording
  | .missingProvider => [.noProvider]
  | .unused => [.unusedBefore, .unusedAfter]

namespace Diagnostic

def extension : Text := ['.', 'g', 'o', ':']

def providerPhrase : Text := "no required module provides package ".toList
def unusedPhrase : Text := "declared and not used: ".toList
def andPhrase : Text := " declared and not used".toList
def butPhrase : Text := " declared but not used".toList

def isFieldChar (c : Char) : Bool := !(c == ':' || Text.isBlank c)

def isPackageChar (c : Char) : Bool := !(c == ':' || c == ';' || Text.isBlank c)

def run? (member : Char → Bool) (text : Text) : Option (Text × Text) :=
  match text.takeWhile member with
  | [] => none
  | taken => some (taken, text.dropWhile member)

structure Complaint where
  name : Text
  width : Nat
  deriving DecidableEq, Repr

def phraseThenName (phrase : Text) (member : Char → Bool) (text : Text) : Option Complaint := do
  let rest ← phrase.isPrefixOf? text
  let (name, _) ← run? member rest
  return ⟨name, phrase.length + name.length⟩

def nameThenPhrase (phrases : List Text) (member : Char → Bool) (text : Text) :
    Option Complaint := do
  let (name, rest) ← run? member text
  let phrase ← phrases.find? (·.isPrefixOf rest)
  return ⟨name, name.length + phrase.length⟩

end Diagnostic

open Diagnostic in
def Wording.read? : Wording → Text → Option Complaint
  | .noProvider => phraseThenName providerPhrase isPackageChar
  | .unusedBefore => phraseThenName unusedPhrase Text.isWord
  | .unusedAfter => nameThenPhrase [andPhrase, butPhrase] Text.isWord

namespace Diagnostic

/-- `.go:LINE:COLUMN: ` at the front of a text: the two fields and the rest. -/
def position? (text : Text) : Option (Text × Text × Text) := do
  let afterExtension ← extension.isPrefixOf? text
  let (line, afterLine) ← run? isFieldChar afterExtension
  let afterColon ← [':'].isPrefixOf? afterLine
  let (column, afterColumn) ← run? Text.isDigit afterColon
  let rest ← [':', ' '].isPrefixOf? afterColumn
  return (line, column, rest)

/-- A recognised message: its fields and the range of characters it takes in the line. -/
structure Match where
  line : Text
  column : Text
  name : Text
  start : Nat
  stop : Nat
  deriving DecidableEq, Repr

def matchAt? (wording : Wording) (offset : Nat) (text : Text) : Option Match := do
  let (line, column, rest) ← position? text
  let complaint ← wording.read? rest
  return ⟨line, column, complaint.name, offset,
    offset + extension.length + line.length + 1 + column.length + 2 + complaint.width⟩

def search? (wording : Wording) (offset : Nat) : Text → Option Match
  | [] => none
  | c :: rest =>
    match matchAt? wording offset (c :: rest) with
    | some found => some found
    | none => search? wording (offset + 1) rest

end Diagnostic

/-- The message of a kind in a line: the preferred wording wins wherever it stands. -/
def Kind.match? (kind : Kind) (line : Text) : Option Diagnostic.Match :=
  kind.wordings.findSome? fun wording => Diagnostic.search? wording 0 line

structure Finding where
  name : Text
  line : Int
  deriving DecidableEq, Repr

inductive Diagnostic.Problem where
  | malformed (field line : Text)
  | notPositive (number : Int) (line : Text)
  | outside (line : Int) (count : Nat)
  | unwritable
  deriving DecidableEq, Repr

namespace Diagnostic.Problem

def message : Problem → String
  | malformed field line =>
    "parse_diagnostics: invalid line number " ++ String.ofList (Text.quoted field) ++
      " in: " ++ String.ofList line
  | notPositive number line =>
    s!"parse_diagnostics: line number {number} out of range in: " ++ String.ofList line
  | outside line count => s!"rewrite: line {line + 1} is outside the source ({count} lines)"
  | unwritable => Text.tooLongMessage

def diagnostic : Problem → Text
  | malformed _ line => line
  | notPositive _ line => line
  | outside _ _ => []
  | unwritable => []

/-- The problem of a line outside the source, whose number may have too many digits to be told. -/
def ofOutside (line : Int) (count : Nat) : Problem :=
  if Text.isTooLong (line + 1) then unwritable else outside line count

end Diagnostic.Problem

def Kind.finding? (kind : Kind) (line : Text) : Except Diagnostic.Problem (Option Finding) :=
  match kind.match? line with
  | none => .ok none
  | some found =>
    match Text.integer? found.line with
    | none => .error (.malformed found.line line)
    | some number =>
      if number < 1 then .error (.notPositive number line)
      else .ok (some ⟨found.name, number - 1⟩)

/-- The findings of a kind in report order; the first unusable message is the answer. -/
def Kind.findings (kind : Kind) : List Text → Except Diagnostic.Problem (List Finding)
  | [] => .ok []
  | line :: rest =>
    match kind.finding? line with
    | .error problem => .error problem
    | .ok found =>
      match kind.findings rest with
      | .error problem => .error problem
      | .ok more => .ok (found.toList ++ more)

end BlankUse
