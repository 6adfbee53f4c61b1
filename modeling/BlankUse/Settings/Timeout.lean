import BlankUse.Settings.Issue
import BlankUse.Text.Utf8
import BlankUse.Value

/-!
The time limit of a build. It is an integer of at least one, and it may be given as an integer, a
truth value, a float without a fraction, or a string or bytes that hold an integer.

A numeral in a string is tidied before it is read: blanks around it go, then a plus, then zeros and
low lines in front of the first other digit, then a fraction of zeros, then single low lines. What is
left has to be a plain numeral.
-/

namespace BlankUse.Settings

def asciiDigit? (c : Char) : Option Nat := if c.isDigit then some (c.toNat - 0x30) else none

def isFiller (c : Char) : Bool := c == '0' || c == '_'

/-- Drops zeros and low lines behind a first zero, as far as a digit or a minus; a point keeps the
character in front of it, and so does the end. -/
def dropFillers (text : Text) : Option Text :=
  match text with
  | [] => none
  | first :: rest =>
    if first == '0' then
      let kept := (first :: rest).takeWhile isFiller
      match rest.dropWhile isFiller with
      | [] => some (kept.drop (kept.length - 1))
      | c :: tail =>
        if c.isDigit || c == '-' then some (c :: tail)
        else if c == '.' then some (kept.drop (kept.length - 1) ++ c :: tail)
        else none
    else if first.isDigit || first == '-' then some text
    else none

def dropFront (text : Text) : Option Text :=
  match text with
  | '+' :: '-' :: _ => none
  | '+' :: rest => dropFillers rest
  | '-' :: rest => (dropFillers rest).map ('-' :: ·)
  | _ => dropFillers text

def dropZeroFraction (text : Text) : Text :=
  let fraction := (text.dropWhile (· != '.')).drop 1
  if !fraction.isEmpty && fraction.all (· == '0') then text.takeWhile (· != '.') else text

def hasDoubleLow : Text → Bool
  | '_' :: '_' :: _ => true
  | _ :: rest => hasDoubleLow rest
  | [] => false

/-- Drops low lines, if they stand alone and not at an end. -/
def dropLows (text : Text) : Text :=
  if text.head? == some '_' || text.getLast? == some '_' || hasDoubleLow text then text
  else text.filter (· != '_')

/-- A minus or none, and ASCII digits, of which the first is a zero only if it is the only one. -/
def plainDigits? (text : Text) : Option (Bool × List Nat) :=
  let (negative, magnitude) :=
    match text with
    | '-' :: rest => (true, rest)
    | _ => (false, text)
  match magnitude.mapM asciiDigit? with
  | none => none
  | some [] => none
  | some (0 :: _ :: _) => none
  | some digits => some (negative, digits)

def startsTooLong (text : Text) : Bool :=
  let digits := (if text.head? == some '-' then text.drop 1 else text).takeWhile Char.isDigit
  digits.head? != some '0' && decide (Text.digitLimit < digits.length)

def tidied? (text : Text) : Option Text :=
  (dropFront (Text.trim Text.isWhite text)).map (dropLows ∘ dropZeroFraction)

/-- An integer in a string. A numeral that is too long is reported as such only if nothing stands in
front of it. -/
def checkNumeral (text : Text) : Except Flaw Int :=
  if startsTooLong text then .error .tooLarge
  else
    match (tidied? text).bind plainDigits? with
    | none => .error .notNumeral
    | some (negative, digits) =>
      if Text.digitLimit < digits.length then .error .notNumeral
      else .ok (Text.withSign negative (Text.valueOf 10 digits))

def checkFloat (value : Binary64) : Except Flaw Int :=
  match value with
  | .finite _ _ _ =>
    match value.toInt? with
    | none => .error .fractional
    | some number => if number.natAbs < Nat.pow 2 63 then .ok number else .error .tooLarge
  | _ => .error .notFinite

def checkInteger : Value → Except Flaw Int
  | .scalar (.int number) => .ok number
  | .scalar (.bool value) => .ok value.toNat
  | .scalar (.float value) => checkFloat value
  | .scalar (.str text) => checkNumeral text
  | .scalar (.broken _) => .error .notUnicode
  | .scalar (.bytes bytes) =>
    match Utf8.decode? bytes with
    | some text => checkNumeral text
    | none => .error .notNumeral
  | _ => .error .notInteger

def checkTimeout (value : Value) : Except (List Issue) (Option Int) :=
  match value with
  | .scalar .null => .ok none
  | value =>
    match checkInteger value with
    | .error flaw => fault flaw timeoutKey
    | .ok number => if number < 1 then fault .belowOne timeoutKey else .ok (some number)

end BlankUse.Settings
