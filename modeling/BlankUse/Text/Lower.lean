import BlankUse.Text.CharClass
import BlankUse.Text.CodePoint
import BlankUse.Text.Table.Lower

/-!
Text in small letters. A capital sigma at the end of a word has a form of its own: one with a letter
in front of it and none behind it, where signs without a case do not count.
-/

namespace BlankUse.Text

def isCapitalIn (series : Nat × Nat × Nat × Nat) (c : Char) : Bool :=
  let (first, last, step, _) := series
  first ≤ c.toNat && c.toNat ≤ last && (c.toNat - first) % step == 0

/-- The small form of a character. A capital i with a dot keeps its dot. -/
def lowerChar (c : Char) : Text :=
  if isAscii c then [c.toLower]
  else if c.toNat = 0x130 then ['i', Char.ofNat 0x307]
  else
    match Table.capital.find? (isCapitalIn · c) with
    | some (first, _, _, small) => [Char.ofNat (small + (c.toNat - first))]
    | none => [c]

def capitalSigma : Char := Char.ofNat 0x3A3

def meetsCase (text : Text) : Bool :=
  ((text.dropWhile (inRanges Table.caseless)).head?.map (inRanges Table.cased)).getD false

/-- The small form of a sigma between two texts; the one in front is given last character first. -/
def lowerSigma (before after : Text) : Char :=
  if meetsCase before && !meetsCase after then Char.ofNat 0x3C2 else Char.ofNat 0x3C3

/-- The loop of `lower`: `before` is what has been read and `done` its small form, last first. -/
def lowerLoop (before done : Text) : Text → Text
  | [] => done.reverse
  | c :: rest =>
    let small := if c == capitalSigma then [lowerSigma before rest] else lowerChar c
    lowerLoop (c :: before) (small.reverse ++ done) rest

def lower (text : Text) : Text := lowerLoop [] [] text

def lowerRun (run : Text) (done : Points) : Points :=
  (Points.ofText (lower run.reverse)).reverse ++ done

def lowerPointsLoop (run : Text) (done : Points) : Points → Points
  | [] => (lowerRun run done).reverse
  | .char c :: rest => lowerPointsLoop (c :: run) done rest
  | .surrogate code :: rest => lowerPointsLoop [] (.surrogate code :: lowerRun run done) rest

def lowerPoints (points : Points) : Points := lowerPointsLoop [] [] points

end BlankUse.Text
