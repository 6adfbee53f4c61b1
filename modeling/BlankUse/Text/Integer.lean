import BlankUse.Text.CharClass

/-!
Integers in writing. A decimal numeral has an optional sign and digits with single low lines between
them; which characters count as digits is up to the reader. A numeral in a base has no low lines, but
may have blanks around it and the mark of its base in front. Numerals of more than 4300 decimal
digits are neither read nor written.
-/

namespace BlankUse.Text

/-- Digits, each two of them parted by at most one low line. The flag tells that the last character
was a digit. -/
def digitsLoop (digit : Char → Option Nat) (done : List Nat) (afterDigit : Bool) :
    Text → Option (List Nat)
  | [] => if afterDigit then some done.reverse else none
  | c :: rest =>
    if c == '_' then
      if afterDigit then digitsLoop digit done false rest else none
    else
      match digit c with
      | some value => digitsLoop digit (value :: done) true rest
      | none => none

def digits? (digit : Char → Option Nat) (text : Text) : Option (List Nat) :=
  digitsLoop digit [] false text

def valueOf (base : Nat) (digits : List Nat) : Nat :=
  digits.foldl (fun value digit => value * base + digit) 0

def signed : Text → Bool × Text
  | '-' :: rest => (true, rest)
  | '+' :: rest => (false, rest)
  | text => (false, text)

def withSign (negative : Bool) (value : Nat) : Int := if negative then -(value : Int) else value

def digitLimit : Nat := 4300

/-- Reads an integer with digits of any script. -/
def integer? (text : Text) : Option Int :=
  let (negative, magnitude) := signed text
  match digits? digit? magnitude with
  | none => none
  | some digits =>
    if digits.length ≤ digitLimit then some (withSign negative (valueOf 10 digits)) else none

/-! Numerals in a base. -/

def letterValue? (c : Char) : Option Nat :=
  if 'a' ≤ c ∧ c ≤ 'z' then some (c.toNat - 0x57)
  else if 'A' ≤ c ∧ c ≤ 'Z' then some (c.toNat - 0x37)
  else none

def digitIn? (base : Nat) (c : Char) : Option Nat :=
  ((digit? c).or (letterValue? c)).filter (· < base)

def marksBase (base : Nat) (c : Char) : Bool :=
  (base == 2 && c.toLower == 'b') || (base == 8 && c.toLower == 'o') ||
    (base == 16 && c.toLower == 'x')

def dropBaseMark (base : Nat) : Text → Text
  | '0' :: mark :: rest => if marksBase base mark then rest else '0' :: mark :: rest
  | text => text

inductive NumeralFlaw where
  | noNumeral
  | tooLong (count : Nat)
  deriving DecidableEq, Repr

/-- Reads a numeral in a base. The length of a decimal one is looked at before what follows it. -/
def numeral (base : Nat) (text : Text) : Except NumeralFlaw Int :=
  let (negative, magnitude) := signed (text.dropWhile isWhite)
  let body := dropBaseMark base magnitude
  let digits := body.takeWhile fun c => (digitIn? base c).isSome
  if base = 10 ∧ digitLimit < digits.length then .error (.tooLong digits.length)
  else if digits.isEmpty || !(body.drop digits.length).all isWhite then .error .noNumeral
  else .ok (withSign negative (valueOf base (digits.filterMap (digitIn? base))))

/-! Writing. -/

def decimal (value : Int) : Text := (toString value).toList

def isTooLong (value : Int) : Bool := decide (Nat.pow 10 digitLimit ≤ value.natAbs)

def tooLongMessage : String :=
  s!"Exceeds the limit ({digitLimit} digits) for integer string conversion; " ++
    "use sys.set_int_max_str_digits() to increase the limit"

def decimal? (value : Int) : Option Text := if isTooLong value then none else some (decimal value)

end BlankUse.Text
