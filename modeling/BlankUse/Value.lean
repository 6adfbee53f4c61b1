import BlankUse.Binary64
import BlankUse.SlotTable
import BlankUse.Text.Quoted

/-!
Data as a settings file can hold it: scalars and collections. Collections live in a store and are
named by their places in it, so one collection can be held by several others and also by itself. A
map keeps its keys, which are scalars, in the order in which they first appeared, and a later entry
of the same key replaces the value of the earlier one. Each value has a plain text, and a text in
which strings are quoted for use inside collections. A value that holds an integer of too many digits
or is nested too deep has neither.
-/

namespace BlankUse

structure Date where
  year : Nat
  month : Nat
  day : Nat
  deriving DecidableEq, Repr

/-- A time of day, to the millionth of a second, and the distance from universal time in minutes
if one was given. -/
structure Clock where
  hour : Nat
  minute : Nat
  second : Nat
  micro : Nat
  zone : Option Int
  deriving DecidableEq, Repr

/-- The number of a day, in a count that starts with the March of the year zero. -/
def Date.number (date : Date) : Nat :=
  let year := if date.month ≤ 2 then date.year - 1 else date.year
  365 * year + year / 4 - year / 100 + year / 400 + (153 * ((date.month + 9) % 12) + 2) / 5 + date.day

def Clock.instant? (clock : Clock) (date : Date) : Option Int :=
  clock.zone.map fun zone =>
    ((((date.number * 24 + clock.hour) * 60 + clock.minute : Nat) - zone) * 60 + clock.second) *
      1000000 + clock.micro

/-- Scalars. A string that is no Unicode text is a case of its own. -/
inductive Scalar where
  | null
  | bool (value : Bool)
  | int (value : Int)
  | float (value : Binary64)
  | str (value : Text)
  | broken (value : Points)
  | bytes (value : Bytes)
  | date (value : Date)
  | moment (date : Date) (clock : Clock)
  deriving DecidableEq, Repr

inductive Value where
  | scalar (value : Scalar)
  | collection (place : Nat)
  deriving DecidableEq, Repr

instance : Inhabited Value := ⟨.scalar .null⟩

/-- What a collection holds. Pairs are a list whose items all have two parts. -/
inductive Collection where
  | list (items : List Value)
  | pairs (items : List (Value × Value))
  | map (entries : List (Scalar × Value))
  | set (members : List Scalar)
  deriving DecidableEq, Repr

abbrev Store := Array Collection

inductive Unwritable where
  | tooLong
  | tooDeep
  deriving DecidableEq, Repr

structure Data where
  store : Store
  root : Value

namespace Scalar

def ofPoints (points : Points) : Scalar :=
  match points.toText? with
  | some text => str text
  | none => broken points

/-- Whether two scalars are one key of a map. Numbers are compared by value, and times with zones as
instants. -/
def sameKey (left right : Scalar) : Bool :=
  if left = right then true
  else
    match left, right with
    | bool a, int b => (a.toNat : Int) == b
    | int a, bool b => a == (b.toNat : Int)
    | float a, int b => a.toInt? == some b
    | int a, float b => b.toInt? == some a
    | float a, bool b => a.toInt? == some (b.toNat : Int)
    | bool a, float b => b.toInt? == some (a.toNat : Int)
    | float a, float b => a.toInt? == some 0 && b.toInt? == some 0
    | moment day a, moment other b => (a.instant? day).isSome && a.instant? day == b.instant? other
    | _, _ => false

/-- Numbers are taken modulo this prime, so that a fraction has a remainder too. -/
def modulus : Nat := Nat.pow 2 61 - 1

def signedNumber (negative : Bool) (remainder : Nat) : Int :=
  if !negative then remainder else if remainder = 1 then -2 else -remainder

/-- The number that chooses the slot of a scalar in a set; numbers that are one key have the same. -/
def number? : Scalar → Option Int
  | bool value => some value.toNat
  | int value => some (signedNumber (value < 0) (value.natAbs % modulus))
  | float (.finite negative significand exponent) =>
    some (signedNumber negative (significand * Nat.pow 2 (exponent % 61).toNat % modulus))
  | float (.infinite negative) => some (signedNumber negative 314159)
  | str [] => some 0
  | bytes [] => some 0
  | _ => none

def kind : Scalar → String
  | null => "NoneType"
  | bool _ => "bool"
  | int _ => "int"
  | float _ => "float"
  | str _ => "str"
  | broken _ => "str"
  | bytes _ => "bytes"
  | date _ => "date"
  | moment _ _ => "datetime"

end Scalar

namespace Collection

/-- Adds an entry, or replaces the value of the same key where it stands. The entry that was added
last comes first. -/
def insert (entries : List (Scalar × Value)) (entry : Scalar × Value) : List (Scalar × Value) :=
  if entries.any fun known => known.1.sameKey entry.1 then
    entries.map fun known => if known.1.sameKey entry.1 then (known.1, entry.2) else known
  else entry :: entries

def distinct (entries : List (Scalar × Value)) : List (Scalar × Value) :=
  (entries.foldl insert []).reverse

def ofEntries (entries : List (Scalar × Value)) : Collection := map (distinct entries)

/-- The members of a set. Numbers stand in the order of their slots, and other members as they were
added. -/
def ofMembers (members : List Scalar) : Collection :=
  match members.mapM Scalar.number? with
  | some numbers => set (SlotTable.order (numbers.zip members))
  | none => set members

def kind : Collection → String
  | list _ => "list"
  | pairs _ => "list"
  | map _ => "dict"
  | set _ => "set"

end Collection

def padded (width value : Nat) : Text :=
  let digits := Nat.toDigits 10 value
  List.replicate (width - digits.length) '0' ++ digits

namespace Scalar

def dateText (date : Date) : Text :=
  padded 4 date.year ++ '-' :: padded 2 date.month ++ '-' :: padded 2 date.day

def zoneText (minutes : Int) : Text :=
  (if minutes < 0 then '-' else '+') ::
    padded 2 (minutes.natAbs / 60) ++ ':' :: padded 2 (minutes.natAbs % 60)

def clockText (clock : Clock) : Text :=
  padded 2 clock.hour ++ ':' :: padded 2 clock.minute ++ ':' :: padded 2 clock.second ++
    (if clock.micro = 0 then [] else '.' :: padded 6 clock.micro) ++
    (clock.zone.map zoneText).getD []

def commaList (items : List Text) : Text := List.intercalate [',', ' '] items

def dateCall (name : Text) (numbers : List Nat) (tail : List Text) : Text :=
  name ++ '(' :: commaList (numbers.map (fun number : Nat => Text.decimal number) ++ tail) ++ [')']

/-- A number of seconds in days and seconds of a day; what is zero is left out. -/
def spanCall (seconds : Int) : Text :=
  let part (name : String) (value : Int) : List Text :=
    if value = 0 then [] else [name.toList ++ '=' :: Text.decimal value]
  let parts := part "days" (seconds.fdiv 86400) ++ part "seconds" (seconds.fmod 86400)
  "datetime.timedelta(".toList ++ commaList parts ++ [')']

def zoneCall (minutes : Int) : Text :=
  if minutes = 0 then "tzinfo=datetime.timezone.utc".toList
  else "tzinfo=datetime.timezone(".toList ++ spanCall (minutes * 60) ++ [')']

def clockNumbers (clock : Clock) : List Nat :=
  [clock.hour, clock.minute] ++
    (if clock.micro = 0 then (if clock.second = 0 then [] else [clock.second])
      else [clock.second, clock.micro])

def quotedText? : Scalar → Option Text
  | null => some "None".toList
  | bool value => some (if value then "True".toList else "False".toList)
  | int value => Text.decimal? value
  | float value => some value.toText
  | str value => some (Text.quoted value)
  | broken value => some (Text.quotedPoints value)
  | bytes value => some (Text.quotedBytes value)
  | date value =>
    some (dateCall "datetime.date".toList [value.year, value.month, value.day] [])
  | moment day clock =>
    some (dateCall "datetime.datetime".toList
      ([day.year, day.month, day.day] ++ clockNumbers clock) (clock.zone.map zoneCall).toList)

def plainText? : Scalar → Option Text
  | str value => some value
  | broken value => some value.standIn
  | date value => some (dateText value)
  | moment day clock => some (dateText day ++ ' ' :: clockText clock)
  | other => other.quotedText?

end Scalar

namespace Store

open Scalar

def get (store : Store) (place : Nat) : Collection := store.getD place (.list [])

def ellipsis : Collection → Text
  | .list _ => "[...]".toList
  | .pairs _ => "[...]".toList
  | .map _ => "\x7b...\x7d".toList
  | .set _ => "\x7b...\x7d".toList

def listText (items : List Text) : Text := '[' :: commaList items ++ [']']

def braceText (items : List Text) : Text := '{' :: commaList items ++ ['}']

def pairText (left right : Text) : Text := '(' :: left ++ ',' :: ' ' :: right ++ [')']

def entryText (key value : Text) : Text := key ++ ':' :: ' ' :: value

def setText (members : List Text) : Text :=
  if members.isEmpty then "set()".toList else braceText members

def scalarText (text : Option Text) : Except Unwritable Text :=
  match text with
  | some text => .ok text
  | none => .error .tooLong

/-- The text of a value inside the collections at the places `opened`, with a number of collections
that may still be opened. A collection is not opened inside itself. -/
def quotedText (store : Store) : Nat → List Nat → Value → Except Unwritable Text
  | _, _, .scalar value => scalarText value.quotedText?
  | 0, _, .collection _ => .error .tooDeep
  | left + 1, opened, .collection place =>
    let held := store.get place
    if opened.contains place then .ok (ellipsis held)
    else
      let inner := quotedText store left (place :: opened)
      match held with
      | .list items => (items.mapM inner).map listText
      | .pairs items =>
        (items.mapM fun (first, second) => do
          let first ← inner first
          return pairText first (← inner second)).map listText
      | .map entries =>
        (entries.mapM fun (key, value) => do
          let key ← scalarText (Scalar.quotedText? key)
          return entryText key (← inner value)).map braceText
      | .set members =>
        (members.mapM fun member => scalarText (Scalar.quotedText? member)).map setText

/-- Each collection takes one call, and about ten are open around them. -/
def depthLimit : Nat := callLimit - 10

def plainText (store : Store) : Value → Except Unwritable Text
  | .scalar value => scalarText value.plainText?
  | value => store.quotedText depthLimit [] value

def kind (store : Store) : Value → String
  | .scalar value => value.kind
  | .collection place => (store.get place).kind

end Store

end BlankUse
