import BlankUse.Path
import BlankUse.Text.Quoted
import BlankUse.Text.Utf8

/-!
Files and directories of a machine, and the errors of looking for them. A location is the list of
names from the root directory down. Paths are walked name by name, so a missing or an unfit name on
the way is found where it stands.
-/

namespace BlankUse

inductive Refusal where
  | missing
  | inputOutput
  | notExecutable
  | denied
  | notDirectory
  | isDirectory
  | nameTooLong
  | other (number : Nat) (phrase : String)
  deriving DecidableEq, Repr

namespace Refusal

def number : Refusal → Nat
  | missing => 2
  | inputOutput => 5
  | notExecutable => 8
  | denied => 13
  | notDirectory => 20
  | isDirectory => 21
  | nameTooLong => 36
  | other number _ => number

def phrase : Refusal → String
  | missing => "No such file or directory"
  | inputOutput => "Input/output error"
  | notExecutable => "Exec format error"
  | denied => "Permission denied"
  | notDirectory => "Not a directory"
  | isDirectory => "Is a directory"
  | nameTooLong => "File name too long"
  | other _ phrase => phrase

end Refusal

structure SystemError where
  refusal : Refusal
  path : Text
  deriving DecidableEq, Repr

def SystemError.message (error : SystemError) : String :=
  s!"[Errno {error.refusal.number}] {error.refusal.phrase}: " ++
    String.ofList (Text.quoted error.path)

abbrev Location := List Text

inductive Entry where
  | file (content : Bytes)
  | directory
  deriving DecidableEq, Repr

inductive Access where
  | reading
  | updating
  deriving DecidableEq, Repr

/-- All files and directories; the root directory needs no entry. -/
structure FileSystem where
  entries : List (Location × Entry)
  /-- The files that cannot be opened in some way, and why. -/
  bars : List ((Access × Location) × Refusal)
  deriving DecidableEq, Repr

namespace FileSystem

def find? (system : FileSystem) (location : Location) : Option Entry :=
  if location.isEmpty then some .directory else system.entries.lookup location

def nameLimit : Nat := 255

def pathLimit : Nat := 4095

def walk (system : FileSystem) : Location → List Text → Except Refusal Location
  | here, [] => .ok here
  | here, name :: rest =>
    if system.find? here != some .directory then .error .notDirectory
    else if !Path.isKept name then walk system here rest
    else if name == ['.', '.'] then walk system here.dropLast rest
    else if nameLimit < (Utf8.encode name).length then .error .nameTooLong
    else if (system.find? (here ++ [name])).isSome then walk system (here ++ [name]) rest
    else .error .missing

def start (here : Location) (path : Text) : Location :=
  if path.head? == some '/' then [] else here

/-- The location of a path seen from a directory. An empty path names nothing, nor does one with a
null character in it. -/
def resolve (system : FileSystem) (here : Location) (path : Text) : Except Refusal Location :=
  if path.isEmpty || Path.hasNull path then .error .missing
  else if pathLimit < (Utf8.encode path).length then .error .nameTooLong
  else system.walk (start here path) (splitOn '/' path)

def openFile (system : FileSystem) (access : Access) (here : Location) (path : Text) :
    Except Refusal (Location × Bytes) :=
  match system.resolve here path with
  | .error refusal => .error refusal
  | .ok location =>
    match system.find? location with
    | some (.file content) =>
      match system.bars.lookup (access, location) with
      | some refusal => .error refusal
      | none => .ok (location, content)
    | _ => .error .isDirectory

def readFile (system : FileSystem) (here : Location) (path : Text) :
    Except Refusal (Location × Bytes) := system.openFile .reading here path

def put (system : FileSystem) (location : Location) (entry : Entry) : FileSystem :=
  if (system.find? location).isSome then
    { system with entries := system.entries.map fun known =>
        if known.1 == location then (location, entry) else known }
  else { system with entries := system.entries ++ [(location, entry)] }

/-- Puts an entry below a location that exists, with directories for all names but the last. -/
def install (system : FileSystem) (here : Location) (entry : Entry) : List Text → FileSystem
  | [] => system
  | [name] => system.put (here ++ [name]) entry
  | name :: rest => (system.put (here ++ [name]) .directory).install (here ++ [name]) entry rest

def resolveNew (system : FileSystem) (here : Location) (path : Text) : Except Refusal Location :=
  if pathLimit < (Utf8.encode path).length then .error .nameTooLong
  else
    let names := splitOn '/' path
    match system.walk (start here path) names.dropLast with
    | .error refusal => .error refusal
    | .ok parent =>
      if system.find? parent = some .directory then .ok (parent ++ names.getLast?.toList)
      else .error .notDirectory

def isFree (system : FileSystem) (location : Location) : Bool :=
  system.entries.all fun known => !location.isPrefixOf known.1

/-- Removes a location and all that is below it, but for the places below it that are spared. -/
def removeTree (system : FileSystem) (location : Location) (spared : List Location) : FileSystem :=
  { system with entries := system.entries.filter fun known =>
      !location.isPrefixOf known.1 || spared.contains (known.1.drop location.length) }

end FileSystem

end BlankUse
