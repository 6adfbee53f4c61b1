import BlankUse.Yaml.Bracketed

/-!
Collections by columns. A map or a sequence ends at the first token left of its column, and a token
right of it that nothing expects is an error. A key is a node on one line, of at most 1024
characters, with a colon behind it.
-/

namespace BlankUse.Yaml

open Read

/-- Whether a block that starts at `column` ends before the token at the cursor. -/
def leaves (column : Int) (cursor : Cursor) : Bool :=
  cursor.rest.isEmpty || cursor.atMarker || cursor.column < column

def isBlockScalar (cursor : Cursor) : Bool :=
  cursor.head? == some '|' || cursor.head? == some '>'

/-- What has been read of a node on one line: all of it, or properties with nothing behind them. -/
inductive Inline where
  | whole (node : Nat)
  | bare (properties : Properties)

/-- A node on one line that may turn out to be a key: not a block collection and not a block
scalar. `indent` is the column of the collection around it. -/
def inlineContent (fuel : Nat) (indent : Int) (properties : Properties) : Read Nat := do
  let cursor ← cursor
  match cursor.head? with
  | some '*' => aliasNode properties
  | some '[' =>
    advance 1
    bracketSequence fuel (← openCollection properties .seq) []
  | some '{' =>
    advance 1
    bracketMapping fuel (← openCollection properties .map) []
  | some '\'' => scalarNode properties false (← lift (quotedScalar false cursor))
  | some '"' => scalarNode properties false (← lift (quotedScalar true cursor))
  | some c =>
    if startsPlain false c cursor.second? then
      let (text, cursor) := plainScalar fuel false (indent + 1) cursor
      move cursor
      textNode properties true text
    else malformed
  | none => malformed

def inlineNode (fuel : Nat) (indent : Int) (blockScalars : Bool) (outer : Properties) :
    Read Inline := do
  let start ← cursor
  if !isPropertyStart start.head? then return .whole (← inlineContent fuel indent outer)
  let first ← property
  let next ← token false
  if next.place.line != start.place.line || next.rest.isEmpty then return .bare first
  let (inner, next) ←
    if isPropertyStart next.head? then do
      let both ← first.join (← property)
      pure (both, ← token false)
    else pure (first, next)
  if next.place.line != start.place.line || next.rest.isEmpty then return .bare inner
  if isIndicator ':' next then return .whole (← emptyNode inner)
  let properties ← outer.join inner
  if blockScalars && isBlockScalar next then
    return .whole (← textNode properties false (← lift (blockScalar fuel indent next)))
  return .whole (← inlineContent fuel indent properties)

def simpleKey (fuel : Nat) (indent : Int) : Read Nat := do
  let start ← cursor
  match ← inlineNode fuel indent false .none with
  | .bare _ => malformed
  | .whole node =>
    let next ← token false
    if isIndicator ':' next && keyReaches start.place next.place then return node else malformed

def isKeyEnd (start next : Cursor) : Bool :=
  isIndicator ':' next && next.place.line == start.place.line

mutual
/-- A node right of the column `indent`, starting at the token at the cursor. In a map, behind
properties, entries of a sequence may also stand in that column. -/
def blockNode : Nat → (inMap : Bool) → Int → Properties → Read Nat
  | 0, _, _, _ => malformed
  | fuel + 1, inMap, indent, properties => do
    let start ← cursor
    if isIndicator '-' start then
      if start.place.keyAllowed then
        blockSequence fuel start.column (← openCollection properties .seq) []
      else malformed
    else if isIndicator '?' start then
      if start.place.keyAllowed then
        blockMapping fuel start.column (← openCollection properties .map) []
      else malformed
    else if isIndicator ':' start then malformed
    else if isBlockScalar start then
      textNode properties false (← lift (blockScalar fuel indent start))
    else if isPropertyStart start.head? && !start.place.keyAllowed then
      match ← inlineNode fuel indent true properties with
      | .whole node => closeNode node
      | .bare inner => afterProperties fuel inMap indent (← properties.join inner)
    else if start.place.keyAllowed && properties.isNone then
      match ← inlineNode fuel indent true .none with
      | .whole node =>
        if isKeyEnd start (← token false) then
          blockMappingFrom fuel start (← openCollection .none .map) node
        else closeNode node
      | .bare inner => afterProperties fuel inMap indent inner
    else if start.place.keyAllowed then
      let before ← get
      let opened ← openCollection properties .map
      match ← inlineNode fuel indent true .none with
      | .whole node =>
        if isKeyEnd start (← token false) then blockMappingFrom fuel start opened node
        else
          set before
          match ← inlineNode fuel indent true properties with
          | .whole node => closeNode node
          | .bare _ => malformed
      | .bare inner =>
        modify fun state => { state with anchors := before.anchors, depth := before.depth }
        afterProperties fuel inMap indent (← properties.join inner)
    else closeNode (← inlineContent fuel indent properties)

def closeNode (node : Nat) : Read Nat := do
  let next ← cursor
  let token ← token false
  if isIndicator ':' token && token.place.line == next.place.line && !token.place.keyAllowed then
    malformed
  else return node

def afterProperties : Nat → (inMap : Bool) → Int → Properties → Read Nat
  | 0, _, _, _ => malformed
  | fuel + 1, inMap, indent, properties => do
    let next ← token false
    if leaves indent next then emptyNode properties
    else if next.column == indent then
      if inMap && isIndicator '-' next then blockItems fuel indent (← openCollection properties .seq) []
      else if isBlockScalar next then
        textNode properties false (← lift (blockScalar fuel indent next))
      else emptyNode properties
    else blockNode fuel inMap indent properties

/-- A value in a map at `column`, or the key behind a question mark. Entries of a sequence may stand
in the column of the map itself. -/
def blockValue : Nat → Int → Read Nat
  | 0, _ => malformed
  | fuel + 1, column => do
    let next ← token false
    if leaves column next then emptyNode .none
    else if next.column == column then
      if isIndicator '-' next then blockItems fuel column (← openCollection .none .seq) []
      else if isBlockScalar next then
        textNode .none false (← lift (blockScalar fuel column next))
      else emptyNode .none
    else blockNode fuel true column .none

def blockMapping : Nat → Int → Opened → List (Nat × Nat) → Read Nat
  | 0, _, _, _ => malformed
  | fuel + 1, column, opened, done => do
    let next ← token false
    if leaves column next then closeMapping opened done.reverse
    else if next.column != column || !next.place.keyAllowed then malformed
    else if isIndicator '?' next then
      advance 1
      let key ← blockValue fuel column
      let next ← token false
      if next.column == column && isIndicator ':' next && !next.atMarker then
        if !next.place.keyAllowed then malformed
        advance 1
        let value ← blockValue fuel column
        blockMapping fuel column opened ((key, value) :: done)
      else blockMapping fuel column opened ((key, ← emptyNode .none) :: done)
    else if isIndicator '-' next || isIndicator ':' next then malformed
    else
      let key ← simpleKey fuel column
      allow false
      advance 1
      let value ← blockValue fuel column
      blockMapping fuel column opened ((key, value) :: done)

def blockMappingFrom : Nat → Cursor → Opened → Nat → Read Nat
  | 0, _, _, _ => malformed
  | fuel + 1, start, opened, key => do
    if !keyReaches start.place (← cursor).place then malformed
    allow false
    advance 1
    let value ← blockValue fuel start.column
    blockMapping fuel start.column opened [(key, value)]

def blockSequence : Nat → Int → Opened → List Nat → Read Nat
  | 0, _, _, _ => malformed
  | fuel + 1, column, opened, done => do
    let next ← token false
    if leaves column next then closeSequence opened done.reverse
    else if next.column != column || !isIndicator '-' next || !next.place.keyAllowed then malformed
    else
      allow true
      advance 1
      let item ← token false
      if item.column == column && !leaves column item && !isIndicator '-' item &&
          !isBlockScalar item then malformed
      let node ← blockItem fuel column
      blockSequence fuel column opened (node :: done)

def blockItem : Nat → Int → Read Nat
  | 0, _ => malformed
  | fuel + 1, column => do
    let next ← token false
    if leaves column next then emptyNode .none
    else if next.column == column then
      if isBlockScalar next then textNode .none false (← lift (blockScalar fuel column next))
      else emptyNode .none
    else blockNode fuel false column .none

def blockItems : Nat → Int → Opened → List Nat → Read Nat
  | 0, _, _, _ => malformed
  | fuel + 1, column, opened, done => do
    let next ← token false
    if !leaves column next && next.column == column && isIndicator '-' next then
      if !next.place.keyAllowed then malformed
      allow true
      advance 1
      let node ← blockItem fuel column
      blockItems fuel column opened (node :: done)
    else closeSequence opened done.reverse
end

end BlankUse.Yaml
