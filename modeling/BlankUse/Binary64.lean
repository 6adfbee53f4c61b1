import BlankUse.Text.Integer

/-!
Double-precision numbers as exact values: a sign, a significand below `2^53` and a power of two.
Decimals are rounded to the nearest number, a tie going to the even significand. A number is
written with the fewest digits that are read back as the same number; of two such texts the nearer
one is taken.
-/

namespace BlankUse

inductive Binary64 where
  | finite (negative : Bool) (significand : Nat) (exponent : Int)
  | infinite (negative : Bool)
  | nan
  deriving DecidableEq, Repr

namespace Binary64

def leastExponent : Int := -1074
def greatestExponent : Int := 971

/-- The nearest natural number to a quotient, a tie going to the even one. -/
def divideToEven (numerator denominator : Nat) : Nat :=
  let quotient := numerator / denominator
  let twice := 2 * (numerator % denominator)
  if twice < denominator then quotient
  else if twice = denominator then quotient + quotient % 2
  else quotient + 1

def scale (base : Nat) (power : Int) (numerator denominator : Nat) : Nat × Nat :=
  if 0 ≤ power then (numerator * Nat.pow base power.toNat, denominator)
  else (numerator, denominator * Nat.pow base (-power).toNat)

def roundAt (exponent : Int) (numerator denominator : Nat) : Nat :=
  let (numerator, denominator) := scale 2 (-exponent) numerator denominator
  divideToEven numerator denominator

def ofRatio (negative : Bool) (numerator denominator : Nat) : Binary64 :=
  if numerator = 0 then .finite negative 0 leastExponent
  else
    let estimate := (numerator.log2 : Int) - denominator.log2 - 52
    let (scaled, unit) := scale 2 (-estimate) numerator denominator
    let exponent :=
      max leastExponent (if scaled < Nat.pow 2 52 * unit then estimate - 1 else estimate)
    let significand := roundAt exponent numerator denominator
    let (significand, exponent) :=
      if significand = Nat.pow 2 53 then (Nat.pow 2 52, exponent + 1) else (significand, exponent)
    if exponent ≤ greatestExponent then .finite negative significand exponent
    else .infinite negative

/-- The number nearest to `digits` times a power of ten. Powers far outside the range of the format
are settled without computing them. -/
def ofDecimal (negative : Bool) (digits : List Nat) (power : Int) : Binary64 :=
  let value := Text.valueOf 10 digits
  if value = 0 then .finite negative 0 leastExponent
  else if power + digits.length < -400 then .finite negative 0 leastExponent
  else if 400 < power then .infinite negative
  else
    let (numerator, denominator) := scale 10 power value 1
    ofRatio negative numerator denominator

/-- The exact value of a finite number without its sign, as a ratio. -/
def ratio (significand : Nat) (exponent : Int) : Nat × Nat := scale 2 exponent significand 1

def zero : Binary64 := .finite false 0 leastExponent

def signedRatio (negative : Bool) (significand : Nat) (exponent : Int) : Int × Nat :=
  let (numerator, denominator) := ratio significand exponent
  (Text.withSign negative numerator, denominator)

/-- The rounded sum. A sum of zero is negative only if both numbers are; opposite infinities have no
sum. -/
def plus : Binary64 → Binary64 → Binary64
  | finite negative left leftExponent, finite otherNegative right rightExponent =>
    let (numerator, denominator) := signedRatio negative left leftExponent
    let (other, otherDenominator) := signedRatio otherNegative right rightExponent
    let sum := numerator * otherDenominator + other * denominator
    ofRatio (if sum = 0 then negative && otherNegative else decide (sum < 0)) sum.natAbs
      (denominator * otherDenominator)
  | infinite negative, infinite otherNegative =>
    if negative = otherNegative then infinite negative else nan
  | infinite negative, finite _ _ _ => infinite negative
  | finite _ _ _, infinite negative => infinite negative
  | nan, _ => nan
  | _, nan => nan

def times : Binary64 → Binary64 → Binary64
  | finite negative left leftExponent, finite otherNegative right rightExponent =>
    let (numerator, denominator) := ratio left leftExponent
    let (other, otherDenominator) := ratio right rightExponent
    ofRatio (negative != otherNegative) (numerator * other) (denominator * otherDenominator)
  | infinite negative, infinite otherNegative => infinite (negative != otherNegative)
  | infinite negative, finite otherNegative significand _ =>
    if significand = 0 then nan else infinite (negative != otherNegative)
  | finite negative significand _, infinite otherNegative =>
    if significand = 0 then nan else infinite (negative != otherNegative)
  | nan, _ => nan
  | _, nan => nan

def ofNat? (value : Nat) : Option Binary64 :=
  match ofRatio false value 1 with
  | infinite _ => none
  | number => some number

def negate : Binary64 → Binary64
  | finite negative significand exponent => finite (!negative) significand exponent
  | infinite negative => infinite (!negative)
  | nan => nan

def toInt? : Binary64 → Option Int
  | finite negative significand exponent =>
    let (numerator, denominator) := ratio significand exponent
    if numerator % denominator = 0 then some (Text.withSign negative (numerator / denominator))
    else none
  | _ => none

def leadingPower (numerator denominator : Nat) : Int :=
  let estimate := ((numerator.log2 : Int) - denominator.log2) * 30103 / 100000
  let reaches (power : Int) : Bool :=
    let (scaled, unit) := scale 10 (-power) numerator denominator
    unit ≤ scaled
  if reaches (estimate + 1) then estimate + 1
  else if reaches estimate then estimate
  else if reaches (estimate - 1) then estimate - 1
  else estimate - 2

/-- The open or closed interval of values that are read as one number, in quarters of its unit. -/
structure Neighbourhood where
  low : Nat
  value : Nat
  high : Nat
  closed : Bool

def neighbourhood (significand : Nat) (exponent : Int) : Neighbourhood where
  low := 4 * significand - if significand = Nat.pow 2 52 ∧ exponent ≠ leastExponent then 1 else 2
  value := 4 * significand
  high := 4 * significand + 2
  closed := significand % 2 = 0

def Neighbourhood.holds (area : Neighbourhood) (exponent power : Int) (count : Nat) : Bool :=
  let (left, unit) := scale 10 power count 1
  let (left, unit) := scale 2 (2 - exponent) left unit
  if area.closed then area.low * unit ≤ left && left ≤ area.high * unit
  else area.low * unit < left && left < area.high * unit

/-- The digits of a positive finite number on a grid of `count` digits, if a point of that grid is
read back as the number. -/
def gridDigits? (significand : Nat) (exponent lead : Int) (count : Nat) : Option Nat :=
  let (numerator, denominator) := ratio significand exponent
  let power := lead + 1 - count
  let (scaled, unit) := scale 10 (-power) numerator denominator
  let below := scaled / unit
  let nearest := divideToEven scaled unit
  let other := if nearest = below then below + 1 else below
  let area := neighbourhood significand exponent
  if area.holds exponent power nearest then some nearest
  else if area.holds exponent power other then some other
  else none

def shortest (significand : Nat) (exponent : Int) : List Char × Int :=
  let (numerator, denominator) := ratio significand exponent
  let lead := leadingPower numerator denominator
  let found := (List.range 17).findSome? fun count =>
    (gridDigits? significand exponent lead (count + 1)).map fun digits => (digits, count + 1)
  match found with
  | some (digits, count) =>
    let text := (Nat.toDigits 10 digits)
    (text, lead + text.length - count)
  | none => ([], lead)

def dropTrailingZeros (digits : List Char) : List Char :=
  (digits.reverse.dropWhile (· == '0')).reverse

/-- Numbers from `10^-4` up to `10^16` are written positionally and keep a point; others have an
exponent of at least two digits with its sign. -/
def layout (digits : List Char) (lead : Int) : Text :=
  let count := digits.length
  if -4 ≤ lead ∧ lead < 0 then
    '0' :: '.' :: List.replicate (-lead - 1).toNat '0' ++ digits
  else if 0 ≤ lead ∧ lead < 16 then
    let whole := lead.toNat + 1
    if count ≤ whole then digits ++ List.replicate (whole - count) '0' ++ ['.', '0']
    else digits.take whole ++ '.' :: digits.drop whole
  else
    let power := (Nat.toDigits 10 lead.natAbs)
    let fraction := if count ≤ 1 then [] else '.' :: digits.drop 1
    digits.take 1 ++ fraction ++ 'e' :: (if lead < 0 then '-' else '+') ::
      (if power.length < 2 then '0' :: power else power)

def toText : Binary64 → Text
  | nan => "nan".toList
  | infinite negative => if negative then "-inf".toList else "inf".toList
  | finite negative significand exponent =>
    let body :=
      if significand = 0 then "0.0".toList
      else
        let (digits, lead) := shortest significand exponent
        layout (dropTrailingZeros digits) lead
    if negative then '-' :: body else body

end Binary64

end BlankUse
