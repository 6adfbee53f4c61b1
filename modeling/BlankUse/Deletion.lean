import BlankUse.Basic

/-!
Deleting every match of a pattern from a byte string. A pattern is given by the width of the match
that starts at the front of its argument, if one does. Matches are taken from the left, and the
search goes on behind each of them, so matches never overlap and deleted text is never searched
again.
-/

namespace BlankUse

/-- The width of the match at the front of a byte string. -/
abbrev Pattern := Bytes → Option Nat

namespace Pattern

structure Deleted where
  bytes : Bytes
  count : Nat
  deriving DecidableEq, Repr

/-- `skip` bytes of the current match are still to be dropped; `kept` holds what stays, last first. -/
def scan (pattern : Pattern) (skip : Nat) (kept : Bytes) (count : Nat) : Bytes → Deleted
  | [] => ⟨kept.reverse, count⟩
  | byte :: rest =>
    match skip with
    | skip + 1 => scan pattern skip kept count rest
    | 0 =>
      match pattern (byte :: rest) with
      | some (width + 1) => scan pattern width kept (count + 1) rest
      | _ => scan pattern 0 (byte :: kept) count rest

def deleteAll (pattern : Pattern) (bytes : Bytes) : Deleted := scan pattern 0 [] 0 bytes

end Pattern

end BlankUse
