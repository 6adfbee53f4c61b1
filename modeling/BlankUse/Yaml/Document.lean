import BlankUse.Yaml.Block
import BlankUse.Yaml.Meaning

/-!
YAML texts. A text holds at most one document, perhaps with directives in front of it and markers
around it.
-/

namespace BlankUse.Yaml

open Read

def directiveWords (line : Text) : List Text :=
  ((splitOn ' ' line).filter fun word => !word.isEmpty).takeWhile fun word =>
    word.head? != some '#'

/-- `!`, `!!` or a name between two exclamation marks. -/
def isHandle (text : Text) : Bool :=
  match text with
  | ['!'] => true
  | '!' :: rest => rest.getLast? == some '!' && rest.dropLast.all isNameChar
  | _ => false

def isVersionOne (major minor : Text) : Bool :=
  !major.isEmpty && major.all isDecimal && wholeNumber major == 1 && !minor.isEmpty &&
    minor.all isDecimal

/-- One directive line; `%YAML` needs version one, `%TAG` a handle that has not been set, and unknown
directives are ignored. -/
def directive (versioned : Bool) : Read Bool := do
  advance 1
  let line := (← cursor).rest.takeWhile fun c => !isBreak c
  advance line.length
  let name := line.takeWhile isNameChar
  let behind := line.drop name.length
  if name.isEmpty || !(behind.isEmpty || behind.head? == some ' ') then malformed
  let words := directiveWords behind
  if String.ofList name == "YAML" then
    match words.map (splitOn '.') with
    | [[major, minor]] =>
      if versioned || !isVersionOne major minor then malformed else return true
    | _ => malformed
  else if String.ofList name == "TAG" then
    match words with
    | [handle, word] =>
      if ((← get).handles.lookup handle).isSome || !isHandle handle then malformed
      match uri word with
      | none => malformed
      | some (start, count) =>
        if count < word.length then malformed
        modify fun state => { state with handles := (handle, start) :: state.handles }
        return versioned
    | _ => malformed
  else return versioned

def directives : Nat → (any versioned : Bool) → Read Bool
  | 0, _, _ => malformed
  | fuel + 1, any, versioned => do
    let next ← token false
    if next.column == 0 && next.head? == some '%' then
      directives fuel true (← directive versioned)
    else return any

def startsWith (c : Char) (cursor : Cursor) : Bool := cursor.head? == some c

def documentEnd : Nat → Read Unit
  | 0 => malformed
  | fuel + 1 => do
    let next ← token false
    if next.rest.isEmpty then return ()
    else if next.atMarker && startsWith '.' next then
      advance 3
      documentEnd fuel
    else malformed

def document (fuel : Nat) : Read Nat := do
  let opened ← directives fuel false false
  let next ← token false
  if next.rest.isEmpty && !opened then emptyNode .none
  else if next.atMarker && startsWith '-' next then
    allow false
    advance 3
    let next ← token false
    let node ← if leaves 0 next then emptyNode .none else blockNode fuel false (-1) .none
    documentEnd fuel
    return node
  else if opened || next.atMarker then malformed
  else
    let node ← blockNode fuel false (-1) .none
    documentEnd fuel
    return node

def startCursor (text : Text) : Cursor :=
  let cursor : Cursor := ⟨.start, text⟩
  if cursor.head? == some byteOrderMark then cursor.advance 1 else cursor

/-- The data of a text that holds at most one document. An empty text is null. -/
def read (text : Text) : Except Fault Data :=
  if text.all isAllowed then
    match (document (4 * text.length + 16)).run (.start (startCursor text)) with
    | .error fault => .error fault
    | .ok (root, state) => (Graph.ofNodes state.count state.nodes).data root
  else .error .malformed

end BlankUse.Yaml
