import BlankUse.Text.Base64
import BlankUse.Text.Lower
import BlankUse.Value
import BlankUse.Yaml.Cursor

/-!
What a scalar means. A plain scalar takes its type from its text: null, truth values, integers in
four bases and in sixties, decimals with a point, and dates. Everything else is a string. A line end
behind the text does not change the type. A tag may ask for another type, and then the text has to
be readable as that type.
-/

namespace BlankUse.Yaml

inductive Tag where
  | null
  | bool
  | int
  | float
  | timestamp
  | str
  | binary
  | merge
  | equals
  | seq
  | map
  | set
  | pairs
  | unknown
  deriving DecidableEq, Repr

def isDecimal (c : Char) : Bool := '0' ≤ c && c ≤ '9'

def isDecimalOrLow (c : Char) : Bool := isDecimal c || c == '_'

def digitValue (c : Char) : Nat := c.toNat - 0x30

def wholeNumber (digits : Text) : Nat := Text.valueOf 10 (digits.map digitValue)

/-! Recognising. -/

def trueWords : List String :=
  ["yes", "Yes", "YES", "true", "True", "TRUE", "on", "On", "ON"]

def falseWords : List String :=
  ["no", "No", "NO", "false", "False", "FALSE", "off", "Off", "OFF"]

def nullWords : List String := ["", "~", "null", "Null", "NULL"]

/-- One part of a number in sixties: up to 59, with or without a zero in front. -/
def isSixtieth : Text → Bool
  | [units] => isDecimal units
  | [tens, units] => '0' ≤ tens && tens ≤ '5' && isDecimal units
  | _ => false

def isSixties (text : Text) : Bool :=
  match splitOn ':' text with
  | first :: rest => first.all isDecimalOrLow && rest.all isSixtieth
  | [] => false

def looksInt (text : Text) : Bool :=
  match (Text.signed text).2 with
  | ['0'] => true
  | '0' :: 'b' :: digits => !digits.isEmpty && digits.all fun c => c == '0' || c == '1' || c == '_'
  | '0' :: 'x' :: digits =>
    !digits.isEmpty &&
      digits.all fun c => isDecimalOrLow c || ('a' ≤ c && c ≤ 'f') || ('A' ≤ c && c ≤ 'F')
  | '0' :: digits => digits.all fun c => ('0' ≤ c && c ≤ '7') || c == '_'
  | c :: rest => isDecimal c && isSixties (c :: rest)
  | [] => false

def looksExponent : Text → Bool
  | [] => true
  | mark :: sign :: digits =>
    (mark == 'e' || mark == 'E') && (sign == '-' || sign == '+') && !digits.isEmpty &&
      digits.all isDecimal
  | _ => false

def looksFraction (text : Text) : Bool := looksExponent (text.dropWhile isDecimalOrLow)

def looksFloat (text : Text) : Bool :=
  let body := (Text.signed text).2
  if ['.', 'i', 'n', 'f'] = body ∨ ['.', 'I', 'n', 'f'] = body ∨ ['.', 'I', 'N', 'F'] = body then
    true
  else if ['.', 'n', 'a', 'n'] = text ∨ ['.', 'N', 'a', 'N'] = text ∨ ['.', 'N', 'A', 'N'] = text
  then true
  else
    match text with
    | '.' :: c :: rest => isDecimal c && looksFraction (c :: rest)
    | _ =>
      match body with
      | c :: _ =>
        let whole := body.takeWhile (· != '.')
        match body.dropWhile (· != '.') with
        | [] => false
        | _ :: fraction =>
          isDecimal c &&
            ((whole.all isDecimalOrLow && looksFraction fraction) ||
              (isSixties whole && whole.contains ':' && fraction.all isDecimalOrLow))
      | [] => false

structure Moment where
  date : Date
  clock : Option Clock
  deriving DecidableEq, Repr

def oneOrTwo : Text → Option (Nat × Text)
  | a :: b :: rest =>
    if isDecimal a then
      if isDecimal b then some (digitValue a * 10 + digitValue b, rest)
      else some (digitValue a, b :: rest)
    else none
  | [a] => if isDecimal a then some (digitValue a, []) else none
  | [] => none

def justTwo : Text → Option (Nat × Text)
  | a :: b :: rest =>
    if isDecimal a && isDecimal b then some (digitValue a * 10 + digitValue b, rest) else none
  | _ => none

def expect (c : Char) : Text → Option Text
  | d :: rest => if c == d then some rest else none
  | [] => none

def dateParts? (text : Text) : Option (Date × Text) := do
  let (century, rest) ← justTwo text
  let (year, rest) ← justTwo rest
  let rest ← expect '-' rest
  let (month, rest) ← oneOrTwo rest
  let rest ← expect '-' rest
  let (day, rest) ← oneOrTwo rest
  return (⟨century * 100 + year, month, day⟩, rest)

def micros (digits : Text) : Nat :=
  wholeNumber (digits.take 6 ++ List.replicate (6 - digits.length) '0')

/-- A time zone: nothing, `Z`, or hours and perhaps minutes with a sign. -/
def zone? : Text → Option (Option Int)
  | [] => some none
  | ['Z'] => some (some 0)
  | sign :: rest =>
    if sign == '-' || sign == '+' then do
      let (hours, rest) ← oneOrTwo rest
      let minutes ←
        match rest with
        | [] => some 0
        | colon :: rest => do
          let (minutes, rest) ← justTwo rest
          if colon == ':' && rest.isEmpty then some minutes else none
      return some (Text.withSign (sign == '-') (hours * 60 + minutes))
    else none

def isGap (c : Char) : Bool := c == ' ' || c == '\t'

def clock? (text : Text) : Option Clock := do
  let rest ←
    match text with
    | c :: rest =>
      if c == 'T' || c == 't' then some rest
      else if isGap c then some (rest.dropWhile isGap)
      else none
    | [] => none
  let (hour, rest) ← oneOrTwo rest
  let rest ← expect ':' rest
  let (minute, rest) ← justTwo rest
  let rest ← expect ':' rest
  let (second, rest) ← justTwo rest
  let (fraction, rest) :=
    match rest with
    | '.' :: rest => (rest.takeWhile isDecimal, rest.dropWhile isDecimal)
    | _ => ([], rest)
  let bare := rest.dropWhile isGap
  let zone ← if bare.isEmpty && !rest.isEmpty then none else zone? bare
  return ⟨hour, minute, second, micros fraction, zone⟩

def moment? (text : Text) : Option Moment :=
  match dateParts? text with
  | none => none
  | some (date, []) => some ⟨date, none⟩
  | some (date, rest) => (clock? rest).map fun clock => ⟨date, some clock⟩

/-- A date alone has ten characters; with a time, month and day may be short. -/
def looksMoment (text : Text) : Bool :=
  match moment? text with
  | none => false
  | some ⟨_, none⟩ => text.length == 10
  | some ⟨_, some _⟩ => true

/-- The text without a line feed at its end; a line feed alone stays. -/
def dropLineEnd (text : Text) : Text :=
  if text.length ≠ 1 ∧ text.getLast? = some '\n' then text.dropLast else text

/-- The type of a plain scalar. The signs in front of properties have a type that nothing reads. -/
def plainTag (text : Text) : Tag :=
  let bare := dropLineEnd text
  let word := String.ofList bare
  if nullWords.contains word then .null
  else if trueWords.contains word || falseWords.contains word then .bool
  else if looksFloat bare then .float
  else if looksInt bare then .int
  else if looksMoment bare then .timestamp
  else if word == "<<" then .merge
  else if word == "=" then .equals
  else if word == "!" || word == "&" || word == "*" then .unknown
  else .str

def pointsTag (points : Points) : Tag := (points.toText?.map plainTag).getD .str

/-! Reading. -/

/-- A message shows this many characters of a numeral, its quotes among them. -/
def shownLength : Nat := 200

def unreadableInt (base : Nat) (points : Points) : Fault :=
  .badValue (s!"invalid literal for int() with base {base}: " ++
    String.ofList ((Text.quotedPoints points).take shownLength))

def tooLong (count : Nat) : Fault :=
  .badValue (s!"Exceeds the limit ({Text.digitLimit} digits) for integer string conversion: " ++
    s!"value has {count} digits; use sys.set_int_max_str_digits() to increase the limit")

def readBase (base : Nat) (points : Points) : Except Fault Int :=
  match Text.numeral base points.standIn with
  | .error .noNumeral => .error (unreadableInt base points)
  | .error (.tooLong count) => .error (tooLong count)
  | .ok value => .ok value

def withoutLow (points : Points) : Points := points.filter (· != .char '_')

def signedPoints : Points → Bool × Points
  | .char '-' :: rest => (true, rest)
  | .char '+' :: rest => (false, rest)
  | points => (false, points)

def readSixties (parts : List Points) : Except Fault Int := do
  let values ← parts.mapM (readBase 10)
  return values.foldl (fun value part => value * 60 + part) 0

/-- A sign in front of the mark of a base or of parts in sixties; each of these may have a sign of
its own besides. -/
def readInt (points : Points) : Except Fault Int := do
  let (negative, body) := signedPoints (withoutLow points)
  let value ←
    match body with
    | .char '0' :: .char 'b' :: digits => readBase 2 digits
    | .char '0' :: .char 'x' :: digits => readBase 16 digits
    | .char '0' :: digits => if digits.isEmpty then .ok 0 else readBase 8 body
    | [] => .error (.unreadable .noDigits)
    | _ =>
      if body.contains (.char ':') then readSixties (splitOn (.char ':') body)
      else readBase 10 body
  return if negative then -value else value

def decimal? (negative : Bool) (text : Text) : Option Binary64 :=
  let whole := text.takeWhile Text.isDigit
  let rest := text.dropWhile Text.isDigit
  let (fraction, rest) :=
    match rest with
    | '.' :: rest => (rest.takeWhile Text.isDigit, rest.dropWhile Text.isDigit)
    | _ => ([], rest)
  let power : Option Int :=
    match rest with
    | [] => some 0
    | mark :: rest =>
      let (minus, digits) := Text.signed rest
      if (mark == 'e' || mark == 'E') && !digits.isEmpty then
        (digits.mapM Text.digit?).map fun values => Text.withSign minus (Text.valueOf 10 values)
      else none
  if whole.isEmpty && fraction.isEmpty then none
  else power.map fun power =>
    Binary64.ofDecimal negative ((whole ++ fraction).filterMap Text.digit?)
      (power - fraction.length)

/-- A decimal or the name of a number that is not finite, with blanks around it and a sign. -/
def readDecimal (points : Points) : Except Fault Binary64 :=
  let (negative, bare) := Text.signed (Text.trim Text.isWhite points.standIn)
  match decimal? negative bare with
  | some value => .ok value
  | none =>
    if bare = "inf".toList ∨ bare = "infinity".toList then .ok (.infinite negative)
    else if bare = "nan".toList then .ok .nan
    else
      .error (.badValue ("could not convert string to float: " ++
        String.ofList (Text.quotedPoints points)))

/-- Adds up parts in sixties, last part first; `unit` is what the next part counts. Each step is
rounded, and a unit outside the range of the format is an error. -/
def sumSixties (unit : Nat) (sum : Binary64) : List Binary64 → Except Fault Binary64
  | [] => .ok sum
  | part :: rest =>
    match Binary64.ofNat? unit with
    | none => .error (.unreadable .factor)
    | some factor => sumSixties (unit * 60) (sum.plus (part.times factor)) rest

def readFloat (points : Points) : Except Fault Binary64 := do
  let bare := Text.lowerPoints (withoutLow points)
  let (negative, body) := signedPoints bare
  if bare.isEmpty then throw (.unreadable .noDigits)
  let value ←
    if body = Points.ofText ".inf".toList then pure (.infinite false)
    else if body = Points.ofText ".nan".toList then pure .nan
    else if body.contains (.char ':') then
      let parts ← (splitOn (.char ':') body).mapM readDecimal
      sumSixties 1 Binary64.zero parts.reverse
    else readDecimal body
  return if negative then value.negate else value

def isLeap (year : Nat) : Bool := year % 4 == 0 && (year % 100 != 0 || year % 400 == 0)

def daysIn (year month : Nat) : Nat :=
  if month == 2 then (if isLeap year then 29 else 28)
  else if month == 4 || month == 6 || month == 9 || month == 11 then 30
  else 31

def zoneFlaw? (minutes : Int) : Option String :=
  if minutes.natAbs < 24 * 60 then none
  else some ("offset must be a timedelta strictly between -timedelta(hours=24) and " ++
    "timedelta(hours=24), not " ++ String.ofList (Scalar.spanCall (minutes * 60)) ++ ".")

def Moment.flaw? (moment : Moment) : Option String :=
  let date := moment.date
  let zone := (moment.clock.bind Clock.zone).bind zoneFlaw?
  if zone.isSome then zone
  else if date.year = 0 then some "year 0 is out of range"
  else if date.month = 0 ∨ 12 < date.month then some "month must be in 1..12"
  else if date.day = 0 ∨ daysIn date.year date.month < date.day then
    some "day is out of range for month"
  else
    moment.clock.bind fun clock =>
      if 23 < clock.hour then some "hour must be in 0..23"
      else if 59 < clock.minute then some "minute must be in 0..59"
      else if 59 < clock.second then some "second must be in 0..59"
      else none

def readMoment (points : Points) : Except Fault Scalar :=
  match (points.toText?.map dropLineEnd).bind moment? with
  | none => .error (.unreadable .noDate)
  | some moment =>
    match moment.flaw?, moment.clock with
    | some flaw, _ => .error (.badValue flaw)
    | none, none => .ok (.date moment.date)
    | none, some clock => .ok (.moment moment.date clock)

def readBool (points : Points) : Except Fault Bool :=
  let word := Text.lowerPoints points
  let known (words : List String) : Bool := words.any fun entry => Points.ofText entry.toList == word
  if known trueWords then .ok true
  else if known falseWords then .ok false
  else .error (.unreadable (.word word))

def readBinary (points : Points) : Except Fault Bytes :=
  match points.toText? with
  | none => .error .malformed
  | some text =>
    match if text.all Text.isAscii then Base64.decode? text else none with
    | some bytes => .ok bytes
    | none => .error .malformed

/-- The scalar of a type and a text. Collections and the merge sign are no scalars. -/
def readScalar (tag : Tag) (points : Points) : Except Fault Scalar :=
  match tag with
  | .null => .ok .null
  | .bool => (readBool points).map .bool
  | .int => (readInt points).map .int
  | .float => (readFloat points).map .float
  | .timestamp => readMoment points
  | .binary => (readBinary points).map .bytes
  | .str => .ok (.ofPoints points)
  | _ => .error .malformed

end BlankUse.Yaml
