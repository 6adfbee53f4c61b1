import BlankUse.Yaml.Properties

/-!
Collections in brackets. Columns do not matter inside them. An entry of a sequence with a colon in
it is a map of one entry.

The functions that call each other carry fuel. Each call passes a character or goes on to the next
of a few alternatives, so a multiple of the length of the text is enough.
-/

namespace BlankUse.Yaml

open Read

def bracketProperties : Read Properties := do
  if !isPropertyStart (← token true).head? then return .none
  let first ← property
  if !isPropertyStart (← token true).head? then return first
  first.join (← property)

def closesEntry (close : Char) (cursor : Cursor) : Bool :=
  cursor.head? == some ',' || cursor.head? == some close

mutual
def bracketNode : Nat → Read Nat
  | 0 => malformed
  | fuel + 1 => do
    let properties ← bracketProperties
    let cursor ← token true
    if cursor.atMarker then malformed
    match cursor.head? with
    | some '*' => aliasNode properties
    | some '[' =>
      advance 1
      bracketSequence fuel (← openCollection properties .seq) []
    | some '{' =>
      advance 1
      bracketMapping fuel (← openCollection properties .map) []
    | some '\'' => scalarNode properties false (← lift (quotedScalar false cursor))
    | some '"' => scalarNode properties false (← lift (quotedScalar true cursor))
    | some c =>
      if startsPlain true c cursor.second? then
        let (text, cursor) := plainScalar fuel true 0 cursor
        move cursor
        textNode properties true text
      else if properties.isNone then malformed
      else if c == ',' || c == ']' || c == '}' || c == ':' then emptyNode properties
      else malformed
    | none => malformed

def bracketValue : Nat → Char → Read Nat
  | 0, _ => malformed
  | fuel + 1, close => do
    advance 1
    if closesEntry close (← token true) then emptyNode .none else bracketNode fuel

def bracketPair : Nat → Char → Read (Nat × Nat)
  | 0, _ => malformed
  | fuel + 1, close => do
    advance 1
    let first ← token true
    let key ←
      if first.head? == some ':' || closesEntry close first then emptyNode .none
      else bracketNode fuel
    let next ← token true
    let value ← if next.head? == some ':' then bracketValue fuel close else emptyNode .none
    return (key, value)

/-- One entry: a node, and a value if a colon follows. -/
def bracketEntry : Nat → Char → Read (Nat × Option Nat)
  | 0, _ => malformed
  | fuel + 1, close => do
    let start ← token true
    if start.head? == some '?' then
      let (key, value) ← bracketPair fuel close
      return (key, some value)
    else
      let node ← bracketNode fuel
      let next ← token true
      if next.head? == some ':' then
        if keyReaches start.place next.place then
          return (node, some (← bracketValue fuel close))
        else malformed
      else return (node, none)

def bracketSequence : Nat → Opened → List Nat → Read Nat
  | 0, _, _ => malformed
  | fuel + 1, opened, done => do
    if (← token true).head? == some ']' then
      allow false
      advance 1
      closeSequence opened done.reverse
    else
      let item ←
        match ← bracketEntry fuel ']' with
        | (node, none) => pure node
        | (key, some value) => closeMapping (← openCollection .none .map) [(key, value)]
      match (← token true).head? with
      | some ',' =>
        advance 1
        bracketSequence fuel opened (item :: done)
      | some ']' => bracketSequence fuel opened (item :: done)
      | _ => malformed

def bracketMapping : Nat → Opened → List (Nat × Nat) → Read Nat
  | 0, _, _ => malformed
  | fuel + 1, opened, done => do
    if (← token true).head? == some '}' then
      allow false
      advance 1
      closeMapping opened done.reverse
    else
      let (key, written) ← bracketEntry fuel '}'
      let value ←
        match written with
        | some value => pure value
        | none => emptyNode .none
      let done := (key, value) :: done
      match (← token true).head? with
      | some ',' =>
        advance 1
        bracketMapping fuel opened done
      | some '}' => bracketMapping fuel opened done
      | _ => malformed
end

end BlankUse.Yaml
