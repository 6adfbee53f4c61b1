import BlankUse.FileSystem
import BlankUse.Log

/-!
The machine a command runs on: its files, the programs on it, what is going to happen to each build,
when the user is going to interrupt, and what has been done so far.
-/

namespace BlankUse

inductive Program where
  | ready
  | noPermission
  | noFormat
  deriving DecidableEq, Repr

def Program.refusal? : Program → Option Refusal
  | ready => none
  | noPermission => some .denied
  | noFormat => some .notExecutable

/-- What can go wrong with a build on its way: no directory can be made, the disk has no room for the
source file or only for its first bytes, the compiler is not launched, or it runs out of time. -/
inductive Mishap where
  | unmade (refusal : Refusal)
  | diskFull
  | cutShort (written : Nat)
  | unlaunched (refusal : Refusal)
  | timeout
  deriving DecidableEq, Repr

/-- A removal that fails leaves some of what is in the directory, at these places seen from there. -/
inductive Removal where
  | done
  | failed (left : List Location)
  deriving DecidableEq, Repr

def Removal.left : Removal → List Location
  | done => []
  | failed left => left

/-- What happens to one build: how the compiler ends, how often the user interrupts right after it
has ended, a mishap on the way, and how the directory is removed. A compiler that is stopped by a
signal has a negative exit status. -/
structure Fate where
  exitStatus : Int
  output : Bytes
  interrupts : Nat
  mishap : Option Mishap
  removal : Removal
  deriving DecidableEq, Repr

def Fate.smooth : Fate := ⟨0, [], 0, none, .done⟩

structure Run where
  command : List Text
  workdir : Option Text
  source : Bytes
  deriving DecidableEq, Repr

structure Machine where
  system : FileSystem
  here : Location
  /-- The directory for temporary files. -/
  temp : Text
  /-- What is going to be drawn as the random part of each temporary name. -/
  stamps : Nat → Text
  searchPath : List (Text × Program)
  /-- The files that are programs. -/
  programs : List (Location × Program)
  fates : List Fate
  /-- How often the user is going to interrupt at each moment at which no compiler runs. -/
  pauses : List Nat
  /-- Whether the first interrupt is taken as a request to cancel. -/
  heeding : Bool
  cancelled : Bool
  runs : List Run
  notes : List Note

namespace Machine

def note (entry : Note) (machine : Machine) : Machine :=
  { machine with notes := machine.notes ++ [entry] }

def record (run : Run) (machine : Machine) : Machine :=
  { machine with runs := machine.runs ++ [run] }

def requestCancel (machine : Machine) : Machine :=
  { machine.note .cancelRequested with cancelled := true }

/-- The fate of the next build. When none are left, builds succeed and say nothing. -/
def nextFate (machine : Machine) : Fate := machine.fates.headD .smooth

def dropFate (machine : Machine) : Machine := { machine with fates := machine.fates.drop 1 }

def stamp (machine : Machine) : Text := machine.stamps 0

def dropStamp (machine : Machine) : Machine :=
  { machine with stamps := fun index => machine.stamps (index + 1) }

/-- Interrupts in a row; the flag says whether one of them ends the work. -/
def interrupt : Nat → Machine → Bool × Machine
  | 0, machine => (false, machine)
  | count + 1, machine =>
    if machine.heeding && !machine.cancelled then interrupt count machine.requestCancel
    else (true, machine)

def nextPause (machine : Machine) : Nat := machine.pauses.headD 0

def dropPause (machine : Machine) : Machine := { machine with pauses := machine.pauses.drop 1 }

/-- A moment at which the user may interrupt. -/
def pause (machine : Machine) : Bool × Machine := machine.dropPause.interrupt machine.nextPause

end Machine

end BlankUse
