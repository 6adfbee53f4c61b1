import BlankUse.Text.CharClass
import BlankUse.Text.CodePoint

/-!
Text and bytes between quotes, as messages show them. Single quotes are used unless there is a
single quote inside and no double quote. Backslashes, the chosen quote and everything unprintable
are escaped.
-/

namespace BlankUse.Text

def hexDigit (value : Nat) : Char :=
  if value < 10 then Char.ofNat (0x30 + value) else Char.ofNat (0x57 + value)

def hex : Nat → Nat → Text
  | 0, _ => []
  | count + 1, value => hex count (value / 16) ++ [hexDigit (value % 16)]

def escapeCode (value : Nat) : Text :=
  if value < 0x100 then '\\' :: 'x' :: hex 2 value
  else if value < 0x10000 then '\\' :: 'u' :: hex 4 value
  else '\\' :: 'U' :: hex 8 value

def escapeChar (quote c : Char) : Text :=
  if c == quote || c == '\\' then ['\\', c]
  else if c == '\n' then ['\\', 'n']
  else if c == '\r' then ['\\', 'r']
  else if c == '\t' then ['\\', 't']
  else if isPrintable c then [c]
  else escapeCode c.toNat

def escapePoint (quote : Char) : CodePoint → Text
  | .char c => escapeChar quote c
  | .surrogate code => escapeCode code

/-- Bytes outside ASCII are always escaped. -/
def escapeByte (quote : Char) (byte : UInt8) : Text :=
  if byte < 0x80 then escapeChar quote (Char.ofNat byte.toNat) else escapeCode byte.toNat

/-- The quote to use, given whether there are single and double quotes inside. -/
def quoteFor (single double : Bool) : Char := if single && !double then '"' else '\''

def quotedPoints (points : Points) : Text :=
  let quote := quoteFor (points.contains (.char '\'')) (points.contains (.char '"'))
  quote :: points.flatMap (escapePoint quote) ++ [quote]

def quoted (text : Text) : Text :=
  let quote := quoteFor (text.contains '\'') (text.contains '"')
  quote :: text.flatMap (escapeChar quote) ++ [quote]

def quotedBytes (bytes : Bytes) : Text :=
  let quote := quoteFor (bytes.contains 0x27) (bytes.contains 0x22)
  'b' :: quote :: bytes.flatMap (escapeByte quote) ++ [quote]

end BlankUse.Text
