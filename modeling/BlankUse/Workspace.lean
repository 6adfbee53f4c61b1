import BlankUse.Machine
import BlankUse.Settings
import BlankUse.TextFile
import BlankUse.Toggle

/-!
Builds in a throw-away directory. A build makes the directory, writes the code to a file in it, runs
the compiler, and removes the directory again whatever happened in between. A removal that fails
takes the place of the report or of an earlier failure, and leaves some of the directory behind.
-/

namespace BlankUse.Workspace

inductive Obstacle where
  | refused (error : SystemError)
  | noFreshName
  deriving DecidableEq, Repr

def Obstacle.message : Obstacle → String
  | refused error => error.message
  | noFreshName => "[Errno 17] No usable temporary directory name found"

inductive Failure where
  | noDirectory (obstacle : Obstacle)
  | noSource
  | notRemoved
  | notFound (binary : Text) (error : SystemError)
  | notPermitted (binary : Text) (error : SystemError)
  | timedOut (limit : Option Int)
  | notStarted (error : SystemError)
  | limitTooLarge (reason : String)
  | limitUnwritable
  | nullCharacter
  | interrupted
  deriving DecidableEq, Repr

def Failure.message : Failure → String
  | noDirectory obstacle => "build: cannot create temporary directory: " ++ obstacle.message
  | noSource => "build: cannot write temporary source file: disk full"
  | notRemoved => "build: cannot remove temporary directory: device busy"
  | notFound binary error =>
    "build: cannot run " ++ String.ofList binary ++ ": " ++ error.message
  | notPermitted binary error =>
    "build: cannot execute " ++ String.ofList binary ++ ": " ++ error.message
  | timedOut limit =>
    "build: go build timed out after " ++ ((limit.map toString).getD "None") ++ "s"
  | notStarted error => error.message
  | limitTooLarge reason => reason
  | limitUnwritable => Text.tooLongMessage
  | nullCharacter => "embedded null byte"
  | interrupted => ""

def directoryName (stamp : Text) : Text := "gouse".toList ++ stamp

def sourceName (stamp : Text) : Text := "tmp".toList ++ stamp ++ ".go".toList

def pathOf (location : Location) : Text := '/' :: Path.joinNames location

def command (settings : Settings) (source : Text) : List Text :=
  [settings.goBinary, "build".toList, "-o".toList, "/dev/null".toList] ++ settings.buildFlags ++
    [source]

def searchRefusal (machine : Machine) (name : Text) : Option Refusal :=
  match machine.searchPath.lookup name with
  | some program => program.refusal?
  | none =>
    if name == ['.'] || name == ['.', '.'] then some .denied
    else if FileSystem.nameLimit < (Utf8.encode name).length then some .nameTooLong
    else some .missing

def binaryRefusal (machine : Machine) (directory : Location) (binary : Text) : Option Refusal :=
  if binary.contains '/' then
    match machine.system.resolve directory binary with
    | .error refusal => some refusal
    | .ok location =>
      match machine.programs.lookup location with
      | some program => program.refusal?
      | none => some .denied
  else searchRefusal machine binary

def workLocation (machine : Machine) : Option Text → Except SystemError Location
  | none => .ok machine.here
  | some path =>
    match machine.system.resolve machine.here path with
    | .error refusal => .error ⟨refusal, path⟩
    | .ok location =>
      if machine.system.find? location = some .directory then .ok location
      else .error ⟨.notDirectory, path⟩

/-- What keeps the compiler from being started. The directory is entered before the compiler is
looked for. -/
def startError (settings : Settings) (fate : Fate) (machine : Machine) : Option SystemError :=
  match fate.mishap with
  | some (.unlaunched refusal) => some ⟨refusal, settings.goBinary⟩
  | _ =>
    match workLocation machine settings.workdir with
    | .error error => some error
    | .ok directory =>
      (binaryRefusal machine directory settings.goBinary).map fun refusal =>
        ⟨refusal, settings.goBinary⟩

/-- A missing program and one that is not permitted are told apart by the numbers of the errors. -/
def startFailure (settings : Settings) (error : SystemError) : Failure :=
  if error.refusal.number = 2 then .notFound settings.goBinary error
  else if error.refusal.number = 1 ∨ error.refusal.number = 13 then
    .notPermitted settings.goBinary error
  else .notStarted error

def limitMillis (seconds : Binary64) : Binary64 := seconds.times (.ofRatio false 1000 1)

/-- A limit in seconds is kept as a float, as milliseconds in a float, as nanoseconds in 64 bits and
as milliseconds in 32 bits; the first of these that it does not fit is what is wrong with it. -/
def limitFlaw (limit : Int) : Option String :=
  let seconds := Binary64.ofNat? limit.toNat
  if seconds.isNone then some "int too large to convert to float"
  else if seconds.map limitMillis = some (.infinite false) then
    some "cannot convert float infinity to integer"
  else if Int.pow 2 63 ≤ limit * Int.pow 10 9 then some "timestamp too large to convert to C _PyTime_t"
  else if Int.pow 2 31 ≤ limit * 1000 then some "timeout is too large"
  else none

/-- The compiler's output as text: lossy, and with line feeds for all line ends. -/
def outputText (output : Bytes) : Text := TextFile.unifyLineEnds (Utf8.decodeLossy output)

def exitNote (status : Int) (output : Text) : Note :=
  let lines := output.count '\n'
  .debug s!"go build exited with {status} ({lines} output lines)"

/-- The compiler has ended. Interrupts that arrived are seen before its report. -/
def finish (fate : Fate) (machine : Machine) : Except Failure Report × Machine :=
  match machine.interrupt fate.interrupts with
  | (true, machine) => (.error .interrupted, machine)
  | (false, machine) =>
    let output := outputText fate.output
    (.ok ⟨fate.exitStatus == 0, output⟩, machine.note (exitNote fate.exitStatus output))

def sourceContent (machine : Machine) (source : Location) : Bytes :=
  match machine.system.find? source with
  | some (.file content) => content
  | _ => []

def runNote (command : List Text) : Note :=
  .debug ("Running: " ++ String.ofList (List.intercalate [' '] command))

def timeOut (limit : Option Int) : Failure :=
  if limit.any Text.isTooLong then .limitUnwritable else .timedOut limit

def holdsNull (words : List Text) (workdir : Option Text) : Bool :=
  words.any Path.hasNull || workdir.any Path.hasNull

def compile (settings : Settings) (fate : Fate) (source : Location) (machine : Machine) :
    Except Failure Report × Machine :=
  let words := command settings (pathOf source)
  let machine := (machine.note (runNote words)).record
    ⟨words, settings.workdir, sourceContent machine source⟩
  if fate.mishap = some .timeout then (.error (timeOut settings.timeout), machine)
  else if holdsNull words settings.workdir then (.error .nullCharacter, machine)
  else
    match startError settings fate machine, settings.timeout.bind limitFlaw with
    | some error, _ => (.error (startFailure settings error), machine)
    | none, some reason => (.error (.limitTooLarge reason), machine)
    | none, none => finish fate machine

def compileIn (settings : Settings) (code : Bytes) (fate : Fate) (directory : Location)
    (before : Machine) : Except Failure Report × Machine :=
  let source := directory ++ [sourceName before.stamp]
  let machine := before.dropStamp
  let holding (content : Bytes) : Machine :=
    { machine with system := machine.system.put source (.file content) }
  match fate.mishap with
  | some .diskFull => (.error .noSource, machine)
  | some (.cutShort written) => (.error .noSource, holding (code.take written))
  | _ => compile settings fate source (holding code)

def attempts : Nat := 10000

/-- Where the throw-away directory is going to be: under the first name that is drawn at which nothing
is yet. -/
def freshDirectory (settings : Settings) (fate : Fate) :
    Nat → Machine → Except Failure Location × Machine
  | 0, machine => (.error (.noDirectory .noFreshName), machine)
  | tries + 1, before =>
    let path := Path.below (settings.tempDir.getD before.temp) (directoryName before.stamp)
    let machine := before.dropStamp
    if Path.hasNull path then (.error .nullCharacter, machine)
    else
      match machine.system.resolveNew machine.here path with
      | .error refusal => (.error (.noDirectory (.refused ⟨refusal, path⟩)), machine)
      | .ok location =>
        if machine.system.isFree location then
          match fate.mishap with
          | some (.unmade refusal) => (.error (.noDirectory (.refused ⟨refusal, path⟩)), machine)
          | _ => (.ok location, machine)
        else freshDirectory settings fate tries machine

def remove (directory : Location) (removal : Removal) (machine : Machine) : Machine :=
  { machine with system := machine.system.removeTree directory removal.left }

/-- Builds code. Each build takes its fate even if it fails before the compiler is run. -/
def build (settings : Settings) (code : Bytes) (before : Machine) :
    Except Failure Report × Machine :=
  let fate := before.nextFate
  match before.dropFate.pause with
  | (true, machine) => (.error .interrupted, machine)
  | (false, machine) =>
    match freshDirectory settings fate attempts machine with
    | (.error failure, machine) => (.error failure, machine)
    | (.ok directory, machine) =>
      let (outcome, machine) := compileIn settings code fate directory
        { machine with system := machine.system.put directory .directory }
      let outcome := match fate.removal with
        | .done => outcome
        | .failed _ => .error .notRemoved
      (outcome, remove directory fate.removal machine)

def tools (settings : Settings) : Toolchain Machine Failure where
  build := build settings
  cancelled := Machine.cancelled
  note := Machine.note

end BlankUse.Workspace
