import BlankUse.Basic

/-!
Bytes written in base 64. Characters outside the alphabet do not count, and a full padding ends the
text. A group that is neither full nor padded is an error.
-/

namespace BlankUse.Base64

def sextet? (c : Char) : Option Nat :=
  if 'A' ≤ c ∧ c ≤ 'Z' then some (c.toNat - 0x41)
  else if 'a' ≤ c ∧ c ≤ 'z' then some (c.toNat - 0x47)
  else if '0' ≤ c ∧ c ≤ '9' then some (c.toNat + 4)
  else if c = '+' then some 62
  else if c = '/' then some 63
  else none

/-- Reads on inside a group: `position` characters of it have been read, `left` are the bits not yet
written out, `pads` counts padding signs in a row, and `out` holds the bytes, last first. -/
def decodeLoop (position left pads : Nat) (out : Bytes) : Text → Option Bytes
  | [] => if position = 0 then some out.reverse else none
  | c :: rest =>
    if c == '=' then
      if position < 2 then decodeLoop position left pads out rest
      else if 4 ≤ position + pads + 1 then some out.reverse
      else decodeLoop position left (pads + 1) out rest
    else
      match sextet? c, position with
      | none, _ => decodeLoop position left pads out rest
      | some value, 0 => decodeLoop 1 value 0 out rest
      | some value, 1 => decodeLoop 2 (value % 16) 0 ((left * 4 + value / 16).toUInt8 :: out) rest
      | some value, 2 => decodeLoop 3 (value % 4) 0 ((left * 16 + value / 4).toUInt8 :: out) rest
      | some value, _ => decodeLoop 0 0 0 ((left * 64 + value).toUInt8 :: out) rest

def decode? (text : Text) : Option Bytes := decodeLoop 0 0 0 [] text

end BlankUse.Base64
