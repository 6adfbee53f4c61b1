import BlankUse.Basic

/-!
UTF-8 as one machine that reads a byte at a time. It cuts any byte string into well-formed
characters and maximal broken parts, and the readers of this library differ only in what they make
of the broken parts: the strict reader refuses them, the lossy reader shows one replacement
character for each, and the lossless reader keeps their bytes one by one.
-/

namespace BlankUse.Utf8

def encodeChar (c : Char) : Bytes :=
  let value := c.toNat
  if value < 0x80 then [value.toUInt8]
  else if value < 0x800 then
    [(0xC0 + value / 64).toUInt8, (0x80 + value % 64).toUInt8]
  else if value < 0x10000 then
    [(0xE0 + value / 4096).toUInt8, (0x80 + value / 64 % 64).toUInt8, (0x80 + value % 64).toUInt8]
  else
    [(0xF0 + value / 262144).toUInt8, (0x80 + value / 4096 % 64).toUInt8,
      (0x80 + value / 64 % 64).toUInt8, (0x80 + value % 64).toUInt8]

def encode (text : Text) : Bytes := text.flatMap encodeChar

/-- A cut of a byte string: a character, or a broken part that no continuation can complete. -/
inductive Piece where
  | scalar (c : Char)
  | broken (bytes : Bytes)
  deriving DecidableEq, Repr

/-- Between characters, or inside one: the bytes held so far (last first), the value they spell,
the range the next byte must lie in, and how many bytes are still owed. -/
inductive State where
  | start
  | inside (held : Bytes) (value : Nat) (low high : UInt8) (owed : Nat)
  deriving DecidableEq, Repr

/-- What a byte does between characters. The narrowed ranges after `E0`, `ED`, `F0` and `F4` keep
out overlong forms, surrogates and values above `10FFFF`. -/
def first (byte : UInt8) : State × List Piece :=
  let value := byte.toNat
  if value < 0x80 then (.start, [.scalar (Char.ofNat value)])
  else if value < 0xC2 then (.start, [.broken [byte]])
  else if value < 0xE0 then (.inside [byte] (value - 0xC0) 0x80 0xBF 1, [])
  else if value = 0xE0 then (.inside [byte] 0 0xA0 0xBF 2, [])
  else if value = 0xED then (.inside [byte] 0xD 0x80 0x9F 2, [])
  else if value < 0xF0 then (.inside [byte] (value - 0xE0) 0x80 0xBF 2, [])
  else if value = 0xF0 then (.inside [byte] 0 0x90 0xBF 3, [])
  else if value < 0xF4 then (.inside [byte] (value - 0xF0) 0x80 0xBF 3, [])
  else if value = 0xF4 then (.inside [byte] 4 0x80 0x8F 3, [])
  else (.start, [.broken [byte]])

/-- One byte. A byte that cannot continue the open character ends it as a broken part and is then
read between characters. -/
def step : State → UInt8 → State × List Piece
  | .start, byte => first byte
  | .inside held value low high owed, byte =>
    if low ≤ byte ∧ byte ≤ high then
      let grown := value * 64 + (byte.toNat - 0x80)
      if owed ≤ 1 then (.start, [.scalar (Char.ofNat grown)])
      else (.inside (byte :: held) grown 0x80 0xBF (owed - 1), [])
    else
      let (state, pieces) := first byte
      (state, .broken held.reverse :: pieces)

def finish : State → List Piece
  | .start => []
  | .inside held _ _ _ _ => [.broken held.reverse]

/-- Runs the machine over some bytes. The pieces found are put in front of `done`, last first. -/
def feed (state : State) (done : List Piece) : Bytes → State × List Piece
  | [] => (state, done)
  | byte :: rest =>
    let (next, found) := step state byte
    feed next (found.reverse ++ done) rest

def pieces (bytes : Bytes) : List Piece :=
  let (state, done) := feed .start [] bytes
  done.reverse ++ finish state

def Piece.lossy : Piece → Char
  | .scalar c => c
  | .broken _ => Char.ofNat 0xFFFD

def decodeLossy (bytes : Bytes) : Text := (pieces bytes).map Piece.lossy

def Piece.scalar? : Piece → Option Char
  | .scalar c => some c
  | .broken _ => none

def decode? (bytes : Bytes) : Option Text := (pieces bytes).mapM Piece.scalar?

/-- A character as an editor sees it: a well-formed one, or a byte that belongs to none. -/
inductive Glyph where
  | scalar (c : Char)
  | stray (byte : UInt8)
  deriving DecidableEq, Repr

def Piece.glyphs : Piece → List Glyph
  | .scalar c => [.scalar c]
  | .broken bytes => bytes.map .stray

def Glyph.bytes : Glyph → Bytes
  | .scalar c => encodeChar c
  | .stray byte => [byte]

def glyphs (bytes : Bytes) : List Glyph := (pieces bytes).flatMap Piece.glyphs

def ofGlyphs (line : List Glyph) : Bytes := line.flatMap Glyph.bytes

end BlankUse.Utf8
