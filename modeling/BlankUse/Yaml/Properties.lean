import BlankUse.Text.Utf8
import BlankUse.Yaml.Graph
import BlankUse.Yaml.ScalarText

/-!
The state of reading a YAML text, and what may be written in front of a node: an anchor, by which
it can be named again, and a tag, which gives it a type.
-/

namespace BlankUse.Yaml

/-- Where the reader is, how many collections are open there, the numbers of the nodes with anchors,
what tag handles stand for, how many numbers have been given out, and the nodes that are complete. -/
structure State where
  cursor : Cursor
  depth : Nat
  anchors : List (Text × Nat)
  handles : List (Text × Text)
  count : Nat
  nodes : List (Nat × Node)

def State.start (cursor : Cursor) : State := ⟨cursor, 0, [], [], 0, []⟩

abbrev Read := StateT State (Except Fault)

namespace Read

def malformed {Result : Type} : Read Result := throw .malformed

def cursor : Read Cursor := return (← get).cursor

def move (cursor : Cursor) : Read Unit := modify fun state => { state with cursor }

def advance (count : Nat) : Read Unit := modify fun state =>
  { state with cursor := state.cursor.advance count }

def allow (keyAllowed : Bool) : Read Unit := modify fun state =>
  { state with cursor := state.cursor.allow keyAllowed }

def token (bracketed : Bool) : Read Cursor := do
  let cursor := (← cursor).skip bracketed
  move cursor
  return cursor

def lift {Result : Type} (outcome : Except Fault (Result × Cursor)) : Read Result := do
  match outcome with
  | .error fault => throw fault
  | .ok (result, cursor) => move cursor; return result

end Read

open Read

def isNameChar (c : Char) : Bool := c.isAlphanum || c == '-' || c == '_'

def isUriChar (c : Char) : Bool :=
  c.isAlphanum || ['-', ';', '/', '?', ':', '@', '&', '=', '+', '$', ',', '_', '.', '!', '~', '*',
    '\'', '(', ')', '[', ']'].contains c

/-- Reads on in a tag: `bytes` are those of the escapes in a row right before, `out` the text before
them, both last first, and `count` the characters read. The bytes have to be UTF-8. -/
def uriLoop (bytes : Bytes) (out : Text) (count : Nat) : Text → Option (Text × Nat)
  | '%' :: high :: low :: rest =>
    match hexDigit? high, hexDigit? low with
    | some high, some low =>
      uriLoop ((high * 16 + low).toUInt8 :: bytes) out (count + 3) rest
    | _, _ => none
  | text =>
    match Utf8.decode? bytes.reverse with
    | none => none
    | some decoded =>
      let out := decoded.reverse ++ out
      match text with
      | [] => some (out.reverse, count)
      | c :: rest =>
        if c == '%' then none
        else if isUriChar c then uriLoop [] (c :: out) (count + 1) rest
        else some (out.reverse, count)

/-- The text of a tag, or of a part of one, with its escapes resolved, and how many characters it
takes. It is not empty. -/
def uri (text : Text) : Option (Text × Nat) :=
  match uriLoop [] [] 0 text with
  | some (_, 0) => none
  | found => found

def anchorName : Read Text := do
  allow false
  advance 1
  let name := (← cursor).rest.takeWhile isNameChar
  advance name.length
  let next := (← cursor).head?
  if name.isEmpty then malformed
  else if endsToken next || next.any ['?', ':', ',', ']', '}', '%', '@', Char.ofNat 0x60].contains
  then return name
  else malformed

def coreUri : Text := "tag:yaml.org,2002:".toList

def defaultHandles : List (Text × Text) := [(['!'], ['!']), (['!', '!'], coreUri)]

def tagWords : List (String × Tag) :=
  [("null", .null), ("bool", .bool), ("int", .int), ("float", .float), ("timestamp", .timestamp),
    ("str", .str), ("binary", .binary), ("seq", .seq), ("map", .map), ("set", .set),
    ("omap", .pairs), ("pairs", .pairs), ("merge", .merge), ("value", .equals)]

def tagOfUri (uri : Text) : Tag :=
  match coreUri.isPrefixOf? uri with
  | none => .unknown
  | some word => (tagWords.lookup (String.ofList word)).getD .unknown

/-- A tag as written: one that leaves the type to the text, or a type. -/
inductive TagMark where
  | unspecific
  | specific (tag : Tag)

/-- The handle of a tag, `!`, `!!` or `!name!`, and how many characters it takes. -/
def tagHandle (text : Text) : Option (Text × Nat) :=
  let word := (text.drop 1).takeWhile fun c => !(c == ' ' || isBreak c)
  if word.contains '!' then
    let name := (text.drop 1).takeWhile isNameChar
    if (text.drop (1 + name.length)).head? == some '!' then
      some ('!' :: name ++ ['!'], name.length + 2)
    else none
  else some (['!'], 1)

/-- A tag alone is an exclamation mark, also between angle brackets. -/
def markOfUri (text : Text) : TagMark :=
  if text = ['!'] then .unspecific else .specific (tagOfUri text)

def tagAt (handles : List (Text × Text)) (text : Text) : Option (TagMark × Nat) :=
  if (text.drop 1).head? == some '<' then do
    let (name, count) ← uri (text.drop 2)
    if (text.drop (2 + count)).head? == some '>' then some (markOfUri name, count + 3) else none
  else if endsToken (text.drop 1).head? then some (.unspecific, 1)
  else do
    let (handle, length) ← tagHandle text
    let (suffix, count) ← uri (text.drop length)
    let start ← (handles ++ defaultHandles).lookup handle
    return (.specific (tagOfUri (start ++ suffix)), length + count)

def tagMark : Read TagMark := do
  allow false
  match tagAt (← get).handles (← cursor).rest with
  | none => malformed
  | some (mark, count) =>
    advance count
    let next := (← cursor).head?
    if endsLine next || next == some ' ' then return mark else malformed

structure Properties where
  anchor : Option Text
  tag : Option TagMark

namespace Properties

def none : Properties := ⟨.none, .none⟩

def isNone (properties : Properties) : Bool :=
  properties.anchor.isNone && properties.tag.isNone

def join (outer inner : Properties) : Read Properties :=
  if (outer.anchor.isSome && inner.anchor.isSome) || (outer.tag.isSome && inner.tag.isSome) then
    malformed
  else return ⟨outer.anchor.or inner.anchor, outer.tag.or inner.tag⟩

end Properties

def isPropertyStart (c : Option Char) : Bool := c == some '&' || c == some '!'

def property : Read Properties := do
  if (← cursor).head? == some '&' then return ⟨some (← anchorName), .none⟩
  else return ⟨.none, some (← tagMark)⟩

/-- Gives out the number of a new node and enters it under its anchor, which must be new. -/
def openNode (properties : Properties) : Read Nat := do
  let number := (← get).count
  modify fun state => { state with count := number + 1 }
  match properties.anchor with
  | .none => return number
  | some name =>
    if ((← get).anchors.lookup name).isSome then malformed
    else
      modify fun state => { state with anchors := (name, number) :: state.anchors }
      return number

def complete (number : Nat) (node : Node) : Read Nat := do
  modify fun state => { state with nodes := (number, node) :: state.nodes }
  return number

def scalarTag (properties : Properties) (plain : Bool) (points : Points) : Tag :=
  match properties.tag with
  | some (.specific tag) => tag
  | some .unspecific => pointsTag points
  | .none => if plain then pointsTag points else .str

def scalarNode (properties : Properties) (plain : Bool) (points : Points) : Read Nat := do
  complete (← openNode properties) ⟨scalarTag properties plain points, .scalar points⟩

def textNode (properties : Properties) (plain : Bool) (text : Text) : Read Nat :=
  scalarNode properties plain (Points.ofText text)

def emptyNode (properties : Properties) : Read Nat := scalarNode properties true []

structure Opened where
  number : Nat
  tag : Tag

/-- Each collection takes two calls, and about twenty are open around them. -/
def depthLimit : Nat := (callLimit - 20) / 2

def descend : Read Unit := do
  let depth := (← get).depth
  if depth < depthLimit then modify fun state => { state with depth := depth + 1 }
  else throw (.unreadable .tooDeep)

def ascend : Read Unit := modify fun state => { state with depth := state.depth - 1 }

def openCollection (properties : Properties) (default : Tag) : Read Opened := do
  descend
  let number ← openNode properties
  match properties.tag with
  | some (.specific tag) => return ⟨number, tag⟩
  | _ => return ⟨number, default⟩

def closeSequence (opened : Opened) (items : List Nat) : Read Nat := do
  ascend
  complete opened.number ⟨opened.tag, .sequence items⟩

def closeMapping (opened : Opened) (entries : List (Nat × Nat)) : Read Nat := do
  ascend
  complete opened.number ⟨opened.tag, .mapping entries⟩

def aliasNode (properties : Properties) : Read Nat := do
  if !properties.isNone then malformed
  let name ← anchorName
  match (← get).anchors.lookup name with
  | some number => return number
  | none => malformed

/-- A key is on one line and has at most this many characters. -/
def keyLimit : Nat := 1024

def keyReaches (start stop : Place) : Bool :=
  start.line == stop.line && stop.offset - start.offset ≤ keyLimit

def isIndicator (c : Char) (cursor : Cursor) : Bool :=
  cursor.head? == some c && endsToken cursor.second?

end BlankUse.Yaml
