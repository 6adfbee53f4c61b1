import BlankUse.Yaml.Cursor

/-!
The text of a scalar in its three styles. Plain and quoted scalars fold line ends: one becomes a
space, and of several the first one vanishes. Block scalars keep their lines, or fold them, from
the column of their first line on.
-/

namespace BlankUse.Yaml

/-- What a folded gap stands for: its first line end and those behind it, last first. -/
def foldBreaks (first : Char) (more : Text) : Text :=
  if first != '\n' then more ++ [first] else if more.isEmpty then [' '] else more

/-! Plain scalars. -/

def isBracketChar (c : Char) : Bool :=
  c == ',' || c == '[' || c == ']' || c == '{' || c == '}'

def endsWord (bracketed : Bool) (c : Char) (next : Option Char) : Bool :=
  endsToken (some c) ||
    (c == ':' && (endsToken next || (bracketed && next.any isBracketChar))) ||
    (bracketed && (c == '?' || isBracketChar c))

def plainWord (bracketed : Bool) (out : Text) (place : Place) : Text → Text × Cursor
  | [] => (out, ⟨place, []⟩)
  | c :: rest =>
    if endsWord bracketed c rest.head? then (out, ⟨place, c :: rest⟩)
    else plainWord bracketed (c :: out) (place.after c) rest

/-- The line ends and spaces behind a first line end. A document marker ends the scalar: then there
is no gap. -/
def plainBreaks (breaks : Text) (place : Place) : Text → Option Text × Cursor
  | [] => (some breaks, ⟨place, []⟩)
  | c :: rest =>
    if c == ' ' then plainBreaks breaks (place.after c) rest
    else if isBreak c then
      if isMarker rest then (none, ⟨place.after c, rest⟩)
      else plainBreaks (breakText c :: breaks) (place.after c) rest
    else (some breaks, ⟨place, c :: rest⟩)

def plainGap (cursor : Cursor) : Text × Cursor :=
  let blanks := cursor.rest.takeWhile (· == ' ')
  let cursor := cursor.advance blanks.length
  match cursor.rest with
  | c :: rest =>
    if isBreak c then
      let place := (cursor.place.after c).allow true
      if isMarker rest then ([], ⟨place, rest⟩)
      else
        match plainBreaks [] place rest with
        | (none, cursor) => ([], cursor)
        | (some breaks, cursor) => (foldBreaks (breakText c) breaks, cursor)
    else (blanks, cursor)
  | [] => (blanks, cursor)

/-- Words and the gaps between them. Outside brackets a line that starts left of `indent` ends the
scalar. -/
def plainLoop (bracketed : Bool) (indent : Int) :
    Nat → (out gap : Text) → Cursor → Text × Cursor
  | 0, out, _, cursor => (out, cursor)
  | fuel + 1, out, gap, cursor =>
    if cursor.head? == some '#' then (out, cursor)
    else
      match plainWord bracketed (gap ++ out) cursor.place cursor.rest with
      | (grown, after) =>
        if after.place.offset == cursor.place.offset then (out, cursor)
        else
          match plainGap (after.allow false) with
          | (gap, next) =>
            if gap.isEmpty || next.head? == some '#' || (!bracketed && next.column < indent) then
              (grown, next)
            else plainLoop bracketed indent fuel grown gap next

/-- Reads a plain scalar; `fuel` bounds the number of its words. -/
def plainScalar (fuel : Nat) (bracketed : Bool) (indent : Int) (cursor : Cursor) :
    Text × Cursor :=
  let (out, cursor) := plainLoop bracketed indent fuel [] [] cursor
  (out.reverse, cursor)

def startsPlain (bracketed : Bool) (c : Char) (next : Option Char) : Bool :=
  !(endsToken (some c) || ['-', '?', ':', ',', '[', ']', '{', '}', '#', '&', '*', '!', '|', '>',
      '\'', '"', '%', '@', Char.ofNat 0x60].contains c) ||
    (!endsToken next && (c == '-' || (!bracketed && (c == '?' || c == ':'))))

/-! Quoted scalars. -/

inductive Gap where
  | none
  | blanks (text : Text)
  | breaks (first : Char) (more : Text)
  | continued (more : Text)

namespace Gap

def addBlank (c : Char) : Gap → Gap
  | none => blanks [c]
  | blanks text => blanks (c :: text)
  | other => other

def addBreak (c : Char) : Gap → Gap
  | breaks first more => breaks first (breakText c :: more)
  | continued more => continued (breakText c :: more)
  | _ => breaks (breakText c) []

def text : Gap → Text
  | none => []
  | blanks text => text
  | breaks first more => foldBreaks first more
  | continued more => more

end Gap

def escapes : List (Char × Nat) :=
  [('0', 0), ('a', 7), ('b', 8), ('t', 9), ('\t', 9), ('n', 10), ('v', 11), ('f', 12), ('r', 13),
    ('e', 0x1B), (' ', 0x20), ('"', 0x22), ('\\', 0x5C), ('/', 0x2F), ('N', 0x85), ('_', 0xA0),
    ('L', 0x2028), ('P', 0x2029)]

def hexDigit? (c : Char) : Option Nat :=
  if '0' ≤ c ∧ c ≤ '9' then some (c.toNat - 0x30)
  else if 'a' ≤ c ∧ c ≤ 'f' then some (c.toNat - 0x57)
  else if 'A' ≤ c ∧ c ≤ 'F' then some (c.toNat - 0x37)
  else none

def codePoint (digits : Text) : Except Fault CodePoint :=
  match digits.mapM hexDigit? with
  | none => .error .malformed
  | some values =>
    let code := values.foldl (fun value digit => value * 16 + digit) 0
    if 0x7FFFFFFF < code then .error (.unreadable .code)
    else if 0x10FFFF < code then .error (.badValue "chr() arg not in range(0x110000)")
    else if 0xD800 ≤ code ∧ code < 0xE000 then .ok (.surrogate code)
    else .ok (.char (Char.ofNat code))

def escapeLength (c : Char) : Option Nat :=
  if c == 'x' then some 2 else if c == 'u' then some 4 else if c == 'U' then some 8 else none

/-- Reads behind an opening quote. `owed` digits of an escape are still to come, and `digits` holds
those read, last first. -/
def quotedLoop (double : Bool) (out : Points) (gap : Gap) (owed : Nat) (digits : Text)
    (place : Place) : Text → Except Fault (Points × Cursor)
  | [] => .error .malformed
  | c :: rest =>
    let next := place.after c
    if owed > 0 then
      if (hexDigit? c).isNone then .error .malformed
      else if owed = 1 then
        match codePoint (c :: digits).reverse with
        | .error fault => .error fault
        | .ok code => quotedLoop double (code :: out) .none 0 [] next rest
      else quotedLoop double out .none (owed - 1) (c :: digits) next rest
    else if isBreak c then
      if isMarker rest then .error .malformed
      else quotedLoop double out (gap.addBreak c) 0 [] next rest
    else if c == ' ' || c == '\t' then quotedLoop double out (gap.addBlank c) 0 [] next rest
    else
      let out := Points.ofText gap.text ++ out
      if double then
        if c == '"' then .ok (out.reverse, ⟨next, rest⟩)
        else if c == '\\' then
          match rest with
          | [] => .error .malformed
          | letter :: rest =>
            let beyond := next.after letter
            if isBreak letter then
              if isMarker rest then .error .malformed
              else quotedLoop double out (.continued []) 0 [] beyond rest
            else
              match escapes.lookup letter, escapeLength letter with
              | some code, _ =>
                quotedLoop double (.char (Char.ofNat code) :: out) .none 0 [] beyond rest
              | none, some count => quotedLoop double out .none count [] beyond rest
              | none, none => .error .malformed
        else quotedLoop double (.char c :: out) .none 0 [] next rest
      else if c == '\'' then
        match rest with
        | [] => .ok (out.reverse, ⟨next, []⟩)
        | second :: rest =>
          if second == '\'' then
            quotedLoop double (.char second :: out) .none 0 [] (next.after second) rest
          else .ok (out.reverse, ⟨next, second :: rest⟩)
      else quotedLoop double (.char c :: out) .none 0 [] next rest

def quotedScalar (double : Bool) (cursor : Cursor) : Except Fault (Points × Cursor) :=
  let inside := (cursor.allow false).advance 1
  quotedLoop double [] .none 0 [] inside.place inside.rest

/-! Block scalars. -/

inductive Chomping where
  | clip
  | strip
  | keep
  deriving DecidableEq, Repr

def chomping? (c : Char) : Option Chomping :=
  if c == '+' then some .keep else if c == '-' then some .strip else none

def increment? (c : Char) : Option Nat :=
  if '0' ≤ c ∧ c ≤ '9' then some (c.toNat - 0x30) else none

/-- The indicators behind `|` or `>`: a chomping sign and an indentation digit, in either order. -/
def blockIndicators (text : Text) : Except Fault (Chomping × Option Nat × Nat) :=
  match text.head?, text.head?.bind chomping?, text.head?.bind increment? with
  | some _, some chomping, _ =>
    match (text.drop 1).head?.bind increment? with
    | some 0 => .error .malformed
    | some increment => .ok (chomping, some increment, 2)
    | none => .ok (chomping, none, 1)
  | some _, none, some 0 => .error .malformed
  | some _, none, some increment =>
    match (text.drop 1).head?.bind chomping? with
    | some chomping => .ok (chomping, some increment, 2)
    | none => .ok (.clip, some increment, 1)
  | _, _, _ => .ok (.clip, none, 0)

def blockHeaderEnd (cursor : Cursor) : Except Fault Cursor :=
  if !(endsLine cursor.head? || cursor.head? == some ' ') then .error .malformed
  else
    let cursor := cursor.advance (cursor.rest.takeWhile (· == ' ')).length
    let cursor :=
      if cursor.head? == some '#' then
        cursor.advance (cursor.rest.takeWhile fun c => !isBreak c).length
      else cursor
    if endsLine cursor.head? then .ok (cursor.advance 1) else .error .malformed

def blockStart (breaks : Text) (widest : Nat) (place : Place) : Text → Text × Nat × Cursor
  | [] => (breaks, widest, ⟨place, []⟩)
  | c :: rest =>
    let next := place.after c
    if c == ' ' then blockStart breaks (max widest next.column) next rest
    else if isBreak c then blockStart (breakText c :: breaks) widest next rest
    else (breaks, widest, ⟨place, c :: rest⟩)

def blockBreaks (indent : Nat) (breaks : Text) (place : Place) : Text → Text × Cursor
  | [] => (breaks, ⟨place, []⟩)
  | c :: rest =>
    if c == ' ' && place.column < indent then blockBreaks indent breaks (place.after c) rest
    else if isBreak c then blockBreaks indent (breakText c :: breaks) (place.after c) rest
    else (breaks, ⟨place, c :: rest⟩)

def startsBlank (cursor : Cursor) : Bool := cursor.head? == some ' ' || cursor.head? == some '\t'

/-- The lines of a block scalar. The answer holds the text, the last line end, the empty lines
behind it, all last first, and where the scalar ends. -/
def blockLines (folded : Bool) (indent : Nat) :
    Nat → (out breaks : Text) → Cursor → Text × Text × Text × Cursor
  | 0, out, breaks, cursor => (out, [], breaks, cursor)
  | fuel + 1, out, breaks, cursor =>
    let line := cursor.rest.takeWhile fun c => !isBreak c
    let out := line.reverse ++ breaks ++ out
    let lineEnd := cursor.advance line.length
    let lastBreak := (lineEnd.head?.map breakText).toList
    let lineStart := lineEnd.advance 1
    match blockBreaks indent [] lineStart.place lineStart.rest with
    | (breaks, next) =>
      if next.place.column == indent && !next.rest.isEmpty then
        if folded && lastBreak == ['\n'] && !startsBlank cursor && !startsBlank next then
          blockLines folded indent fuel (if breaks.isEmpty then ' ' :: out else out) breaks next
        else blockLines folded indent fuel (lastBreak ++ out) breaks next
      else (out, lastBreak, breaks, next)

def chomp (chomping : Chomping) (out lastBreak breaks : Text) : Text :=
  match chomping with
  | .strip => out
  | .clip => lastBreak ++ out
  | .keep => breaks ++ lastBreak ++ out

/-- Reads a block scalar from its indicator on, inside a collection at column `indent`; `fuel` bounds
the number of its lines. -/
def blockScalar (fuel : Nat) (indent : Int) (cursor : Cursor) : Except Fault (Text × Cursor) :=
  let folded := cursor.head? == some '>'
  let header := (cursor.allow true).advance 1
  match blockIndicators header.rest with
  | .error fault => .error fault
  | .ok (chomping, increment, count) =>
    match blockHeaderEnd (header.advance count) with
    | .error fault => .error fault
    | .ok body =>
      let least := (max 1 (indent + 1)).toNat
      let (breaks, column, first) :=
        match increment with
        | none =>
          let (breaks, widest, first) := blockStart [] 0 body.place body.rest
          (breaks, max least widest, first)
        | some increment =>
          let column := least + increment - 1
          let (breaks, first) := blockBreaks column [] body.place body.rest
          (breaks, column, first)
      if first.place.column == column && !first.rest.isEmpty then
        let (out, lastBreak, breaks, ending) :=
          blockLines folded column fuel [] breaks first
        .ok ((chomp chomping out lastBreak breaks).reverse, ending)
      else .ok ((chomp chomping [] [] breaks).reverse, first)

end BlankUse.Yaml
