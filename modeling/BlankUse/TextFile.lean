import BlankUse.Text.Utf8

/-!
Text from bytes. Lines may end in a line feed, a carriage return, or both, and all of them become
line feeds. A file is read up to a number of characters in blocks: each block is decoded as a whole
and strictly, so bytes behind the last block that was needed are never looked at.
-/

namespace BlankUse.TextFile

def unifyLoop (afterReturn : Bool) (done : Text) : Text → Text
  | [] => done.reverse
  | c :: rest =>
    if c == '\r' then unifyLoop true ('\n' :: done) rest
    else if c == '\n' && afterReturn then unifyLoop false done rest
    else unifyLoop false (c :: done) rest

def unifyLineEnds (text : Text) : Text := unifyLoop false [] text

def leastBlock : Nat := 8192

/-- What has been read: the state of the decoder, a carriage return that may begin a line end, the
text so far, and the bytes and characters of the last block. -/
structure Progress where
  state : Utf8.State
  heldReturn : Bool
  text : Text
  lastBytes : Nat
  lastChars : Nat

def Progress.start : Progress := ⟨.start, false, [], 0, 0⟩

/-- How many bytes are asked for when `wanted` characters are still missing: at least as many as
characters, and more if the last block took more bytes for a character. -/
def Progress.blockSize (progress : Progress) (wanted : Nat) : Nat :=
  let scaled :=
    if progress.lastChars < progress.lastBytes && 0 < progress.lastChars then
      progress.lastBytes * wanted / progress.lastChars
    else wanted
  max leastBlock scaled

/-- Decodes one block. A carriage return at its end waits for the next block. -/
def Progress.addBlock (progress : Progress) (block : Bytes) : Option Progress :=
  let (state, found) := Utf8.feed progress.state [] block
  match found.reverse.mapM Utf8.Piece.scalar? with
  | none => none
  | some decoded =>
    let raw := if progress.heldReturn && !decoded.isEmpty then '\r' :: decoded else decoded
    let held := raw.getLast? == some '\r' || (progress.heldReturn && decoded.isEmpty)
    let text := unifyLineEnds (if raw.getLast? == some '\r' then raw.dropLast else raw)
    some ⟨state, held, progress.text ++ text, block.length, text.length⟩

def Progress.close (progress : Progress) : Option Text :=
  if progress.state = .start then
    some (if progress.heldReturn then progress.text ++ ['\n'] else progress.text)
  else none

/-- Reads blocks until `limit` characters are there or the file ends. Each block but the last takes
a byte or more, so the number of bytes bounds the number of blocks. -/
def readLoop (limit : Nat) : Nat → Progress → Bytes → Option Text
  | 0, progress, _ => progress.close
  | fuel + 1, progress, bytes =>
    if limit ≤ progress.text.length then some (progress.text.take limit)
    else
      match bytes with
      | [] => progress.close
      | _ =>
        let size := progress.blockSize (limit - progress.text.length)
        match progress.addBlock (bytes.take size) with
        | none => none
        | some progress => readLoop limit fuel progress (bytes.drop size)

def read? (limit : Nat) (bytes : Bytes) : Option Text :=
  readLoop limit (bytes.length + 1) .start bytes

end BlankUse.TextFile
