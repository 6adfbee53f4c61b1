import BlankUse.Basic

/-!
Paths. Empty and `.` components vanish, `..` stays, and exactly two slashes in front are kept as
such. A path without components is `.`.
-/

namespace BlankUse

structure Path where
  root : Text
  names : List Text
  deriving DecidableEq, Repr

namespace Path

def rootOf (text : Text) : Text :=
  match text.takeWhile (· == '/') with
  | [] => []
  | ['/', '/'] => ['/', '/']
  | _ => ['/']

def isKept (name : Text) : Bool := !(name.isEmpty || name == ['.'])

def ofText (text : Text) : Path := ⟨rootOf text, (splitOn '/' text).filter isKept⟩

/-- A null character ends a path for the system, so no path may hold one. -/
def hasNull (text : Text) : Bool := text.contains (Char.ofNat 0)

def joinNames (names : List Text) : Text := List.intercalate ['/'] names

def toText (path : Path) : Text :=
  if path.root.isEmpty && path.names.isEmpty then ['.'] else path.root ++ joinNames path.names

/-- A name below a directory given as text; nothing is simplified. -/
def below (directory name : Text) : Text :=
  if directory.isEmpty then name
  else if directory.getLast? == some '/' then directory ++ name
  else directory ++ '/' :: name

end Path

end BlankUse
