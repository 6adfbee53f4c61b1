import BlankUse.Log
import BlankUse.Text.CharClass

/-!
Environment variables and references to them. A reference is `$` and a name in braces. A text is
cut into references and other characters once, and each reference gives way to the value of its
variable, which is not looked at again.
-/

namespace BlankUse

abbrev Environment := List (Text × Text)

namespace Environment

/-- The value of a variable; one that is not set has the empty value. -/
def get (environment : Environment) (name : Text) : Text := (environment.lookup name).getD []

def isNameStart (c : Char) : Bool := c.isAlpha || c == '_'

def isNameChar (c : Char) : Bool := c.isAlphanum || c == '_'

def isName (text : Text) : Bool :=
  match text with
  | [] => false
  | c :: rest => isNameStart c && rest.all isNameChar

def reference? (text : Text) : Option Text :=
  match text with
  | dollar :: brace :: rest =>
    let name := rest.takeWhile isNameChar
    if dollar == '$' && brace == '{' && isName name &&
        (rest.dropWhile isNameChar).head? == some '}' then some name
    else none
  | _ => none

inductive Part where
  | literal (c : Char)
  | reference (name : Text)
  deriving DecidableEq, Repr

/-- `skip` characters of the last reference are still to be passed. -/
def partsLoop (skip : Nat) (done : List Part) : Text → List Part
  | [] => done.reverse
  | c :: rest =>
    match skip with
    | skip + 1 => partsLoop skip done rest
    | 0 =>
      match reference? (c :: rest) with
      | some name => partsLoop (name.length + 2) (.reference name :: done) rest
      | none => partsLoop 0 (.literal c :: done) rest

def parts (text : Text) : List Part := partsLoop 0 [] text

def Part.value (environment : Environment) : Part → Text
  | .literal c => [c]
  | .reference name => environment.get name

def Part.note? (environment : Environment) : Part → Option Note
  | .literal _ => none
  | .reference name =>
    if (environment.get name).isEmpty then
      some (.debug ("Environment variable " ++ String.ofList name ++ " not set"))
    else none

def substitute (environment : Environment) (text : Text) : Text × List Note :=
  ((parts text).flatMap (Part.value environment),
    (parts text).filterMap (Part.note? environment))

end Environment

end BlankUse
