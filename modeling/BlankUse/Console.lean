import BlankUse.Text.Integer
import BlankUse.Text.Lower
import BlankUse.Text.Table.Emoji
import BlankUse.Text.Table.Width

/-!
Messages on a terminal. A message may hold text that looks like a style tag, a word in square
brackets; it is printed as it is. Emoji codes between colons become emoji, each stretch of text
between two tags by itself. Control characters vanish. A tab is a space and as many more as reach the
next multiple of eight columns.

Columns are counted as terminals with emoji do: a joiner joins the character behind it to the one
before it, and the mark of emoji style widens a narrow character that exists as an emoji.
-/

namespace BlankUse.Console

def opensTag (c : Char) : Bool := c.isLower || c == '#' || c == '/' || c == '@'

/-- The length of a tag that begins with the bracket in front of a text. -/
def tagLength? : Text → Option Nat
  | [] => none
  | c :: rest =>
    if opensTag c then
      let inside := rest.takeWhile fun c => c != ']' && c != '['
      if (rest.drop inside.length).head? == some ']' then some (inside.length + 3) else none
    else none

/-- The loop of `pieces`. `skip` characters of the last tag are still to be passed, `piece` is the
text since then and `done` the pieces before it, both last first. Backslashes right before a tag are
a piece of their own, and one right before any other opening bracket falls away. -/
def piecesLoop (skip : Nat) (piece : Text) (done : List Text) : Text → List Text
  | [] => (piece.reverse :: done).reverse
  | c :: rest =>
    match skip with
    | skip + 1 => piecesLoop skip piece done rest
    | 0 =>
      if c == '[' then
        match tagLength? rest with
        | some length =>
          let slashes := piece.takeWhile (· == '\\')
          let before := (piece.dropWhile (· == '\\')).reverse
          piecesLoop (length - 1) [] ((c :: rest).take length :: slashes :: before :: done) rest
        | none =>
          piecesLoop 0 (c :: (if piece.head? == some '\\' then piece.drop 1 else piece)) done rest
      else piecesLoop 0 (c :: piece) done rest

/-- A single backslash at the end of a message is doubled. -/
def closed (message : Text) : Text :=
  if (message.reverse.takeWhile (· == '\\')).length = 1 then message ++ ['\\'] else message

def pieces (message : Text) : List Text := piecesLoop 0 [] [] (closed message)

/-- A name without the ending that asks for a variant, and the mark of the variant. -/
def variant (name : Text) : Text × Text :=
  if "-emoji".toList.isSuffixOf name then (name.take (name.length - 6), [Char.ofNat 0xFE0F])
  else if "-text".toList.isSuffixOf name then (name.take (name.length - 5), [Char.ofNat 0xFE0E])
  else (name, [])

def pointOf (digits : Text) : Char :=
  Char.ofNat (Text.valueOf 16 (digits.map fun c => c.toNat - (if c.isDigit then 0x30 else 0x37)))

def entry? (word : Text) : Option (Text × Text) :=
  match splitOn '=' word with
  | [code, points] => some (code, (splitOn '+' points).map pointOf)
  | _ => none

def emojiTable : List (Text × Text) :=
  ((splitOn '\n' Text.Table.emoji.toList).flatMap (splitOn ' ')).filterMap entry?

def emoji? (code : Text) : Option Text :=
  let (name, mark) := variant code
  (emojiTable.lookup (Text.lower name)).map (· ++ mark)

def isCodeChar (c : Char) : Bool := c != ':' && !Text.isBlank c

def code? (text : Text) : Option Text :=
  let code := text.takeWhile isCodeChar
  if (text.drop code.length).head? == some ':' then some code else none

def emojiLoop (skip : Nat) (done : Text) : Text → Text
  | [] => done.reverse
  | c :: rest =>
    match skip with
    | skip + 1 => emojiLoop skip done rest
    | 0 =>
      match if c == ':' then code? rest else none with
      | some code =>
        let shown := (emoji? code).getD (':' :: code ++ [':'])
        emojiLoop (code.length + 1) (shown.reverse ++ done) rest
      | none => emojiLoop 0 (c :: done) rest

/-- Replaces emoji codes. A colon that closes a code opens no other one. -/
def withEmoji (text : Text) : Text := emojiLoop 0 [] text

def isDropped (c : Char) : Bool :=
  c.toNat == 7 || c.toNat == 8 || c.toNat == 11 || c.toNat == 12 || c.toNat == 13

def columns (c : Char) : Nat :=
  if Text.inRanges Text.Table.wide c then 2
  else if Text.inRanges Text.Table.widthless c then 0
  else 1

def joiner : Char := Char.ofNat 0x200D
def emojiStyle : Char := Char.ofNat 0xFE0F

def styleColumns (last : Option Char) : Nat :=
  if last.any (Text.inRanges Text.Table.emojiBase) then 1 else 0

/-- The loop of `width`: `sum` columns so far, the last of them for the character `last`, if nothing
has widened it yet. The character behind a joiner is passed when `joined`. -/
def widthLoop (sum : Nat) (last : Option Char) (joined : Bool) : Text → Nat
  | [] => sum
  | c :: rest =>
    if joined then widthLoop sum last false rest
    else if c == joiner then widthLoop sum last true rest
    else if c == emojiStyle then widthLoop (sum + styleColumns last) none false rest
    else
      let count := columns c
      widthLoop (sum + count) (if count = 0 then last else some c) false rest

def width (text : Text) : Nat := widthLoop 0 none false text

def tabWidth : Nat := 8

/-- The stretches between the tabs of a line, from a column on. The space that stands for a tab
belongs to the stretch before it. -/
def tabStretches (column : Nat) : List Text → Text
  | [] => []
  | [stretch] => stretch
  | stretch :: rest =>
    let stop := column + width (stretch ++ [' '])
    let gap := (tabWidth - stop % tabWidth) % tabWidth
    stretch ++ ' ' :: List.replicate gap ' ' ++ tabStretches (stop + gap) rest

def expandTabs (text : Text) : Text :=
  List.intercalate ['\n'] ((splitOn '\n' text).map fun line => tabStretches 0 (splitOn '\t' line))

def labelled (label message : Text) : Text :=
  expandTabs (label ++ (((pieces (' ' :: message)).flatMap withEmoji).filter (!isDropped ·)))

def errorText (message : Text) : Text := labelled "Error:".toList message

def warningText (message : Text) : Text := labelled "Warning:".toList message

end BlankUse.Console
