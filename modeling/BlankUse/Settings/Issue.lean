import BlankUse.Text.Integer

/-!
What can be wrong with the data of settings, where in the data it is, and how it is reported.
-/

namespace BlankUse.Settings

inductive Flaw where
  | notMap
  | notString
  | notUnicode
  | notWord
  | empty
  | unwritable
  | notList
  | fractional
  | notFinite
  | tooLarge
  | notNumeral
  | notInteger
  | belowOne
  | unknownKey
  | keyNotString
  | frozen
  deriving DecidableEq, Repr

namespace Flaw

def code : Flaw → String
  | notMap => "model_type"
  | notString => "string_type"
  | notUnicode => "string_unicode"
  | notWord => "string_pattern_mismatch"
  | empty => "string_too_short"
  | unwritable => "value_error"
  | notList => "list_type"
  | fractional => "int_from_float"
  | notFinite => "finite_number"
  | tooLarge => "int_parsing_size"
  | notNumeral => "int_parsing"
  | notInteger => "int_type"
  | belowOne => "greater_than_equal"
  | unknownKey => "extra_forbidden"
  | keyNotString => "invalid_key"
  | frozen => "frozen_instance"

def message : Flaw → String
  | notMap => "Input should be a valid dictionary or instance of GouseConfig"
  | notString => "Input should be a valid string"
  | notUnicode => "Input should be a valid string, unable to parse raw data as a unicode string"
  | notWord => "String should match pattern '^\\w+$'"
  | empty => "String should have at least 1 character"
  | unwritable => "Value error, " ++ Text.tooLongMessage
  | notList => "Input should be a valid list"
  | fractional => "Input should be a valid integer, got a number with a fractional part"
  | notFinite => "Input should be a finite number"
  | tooLarge => "Unable to parse input string as an integer, exceeded maximum size"
  | notNumeral => "Input should be a valid integer, unable to parse string as an integer"
  | notInteger => "Input should be a valid integer"
  | belowOne => "Input should be greater than or equal to 1"
  | unknownKey => "Extra inputs are not permitted"
  | keyNotString => "Keys should be strings"
  | frozen => "Instance is frozen"

end Flaw

inductive Step where
  | key (name : Text)
  | index (number : Int)
  deriving DecidableEq, Repr

structure Issue where
  flaw : Flaw
  place : List Step
  deriving DecidableEq, Repr

/-- Why data gives no settings: the faults of its fields and keys, or a field whose value is nested too
deep to be written. The check stops at such a field, and other faults are not looked for. -/
inductive Rejection where
  | issues (issues : List Issue)
  | tooDeep
  deriving DecidableEq, Repr

def tooDeepMessage : String := "maximum recursion depth exceeded while getting the repr of an object"

def toolNameKey : Text := "tool_name".toList
def goBinaryKey : Text := "go_binary".toList
def buildFlagsKey : Text := "build_flags".toList
def tempDirKey : Text := "temp_dir".toList
def workdirKey : Text := "workdir".toList
def timeoutKey : Text := "timeout".toList

def fieldKeys : List Text :=
  [toolNameKey, goBinaryKey, buildFlagsKey, tempDirKey, workdirKey, timeoutKey]

def fault {Result : Type} (flaw : Flaw) (key : Text) : Except (List Issue) Result :=
  .error [⟨flaw, [.key key]⟩]

end BlankUse.Settings
