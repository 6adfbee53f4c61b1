import BlankUse.Command.Arguments
import BlankUse.Console
import BlankUse.Settings.Load
import BlankUse.Workspace

/-!
The command. It toggles standard input, or one file to standard output, or files in place. Files in
place are taken in order, each is replaced only after its toggle has succeeded, and the first
failure ends the run. Cancellation is looked at before each file. The user may interrupt before each
file, before each toggle and at the end, besides during builds.
-/

namespace BlankUse.Command

def versionText : Text := "0.1.0".toList

inductive Crash where
  | load (failure : Settings.LoadFailure)
  | build (failure : Workspace.Failure)
  deriving DecidableEq, Repr

inductive Ending where
  | misuse
  | help
  | version
  | refused (message : Text)
  | misconfigured (error : Settings.ConfigError)
  | crashed (crash : Crash)
  | failed (message : Text)
  | interrupted (output : Bytes)
  | finished (output : Bytes)

namespace Ending

def exitCode : Ending → Nat
  | misuse => 2
  | help => 0
  | version => 0
  | refused _ => 2
  | misconfigured _ => 2
  | crashed _ => 1
  | failed _ => 1
  | interrupted _ => 130
  | finished _ => 0

def helpText : Text :=
  "Usage: gouse [-w] [-v] [-c FILE] [--verbose] [-q] [--help] [PATHS]...\n".toList

def output : Ending → Bytes
  | help => Utf8.encode helpText
  | version => Utf8.encode (versionText ++ ['\n'])
  | interrupted output => output
  | finished output => output
  | _ => []

/-- Whether the details of a configuration error are to follow on its line. -/
def isOpen : Settings.ConfigError → Bool
  | .malformed _ => true
  | .invalid _ _ => true
  | _ => false

def console : Ending → Text
  | misuse => helpText
  | refused message => Console.errorText message ++ ['\n']
  | misconfigured error =>
    Console.errorText error.message.toList ++ (if isOpen error then [] else ['\n'])
  | failed message => Console.errorText message ++ ['\n']
  | interrupted _ => Console.warningText "Interrupted".toList ++ ['\n']
  | _ => []

end Ending

inductive Failure where
  | system (error : SystemError)
  | toggle (failure : Toggle.Failure Workspace.Failure)

/-- The user has interrupted once too often. -/
def Failure.interrupted : Failure := .toggle (.build .interrupted)

/-- Failures of a build that are not among those a build is expected to have. -/
def isUnhandled : Workspace.Failure → Bool
  | .limitTooLarge _ => true
  | .limitUnwritable => true
  | .nullCharacter => true
  | _ => false

def Failure.ending : Failure → Ending
  | system error => .failed error.message.toList
  | toggle (.diagnostic problem) => .failed problem.message.toList
  | toggle (.build .interrupted) => .interrupted []
  | toggle (.build failure) =>
    if isUnhandled failure then .crashed (.build failure) else .failed failure.message.toList

def toggle (settings : Settings) (code : Bytes) (before : Machine) :
    Except Failure Bytes × Machine :=
  match before.pause with
  | (true, machine) => (.error .interrupted, machine)
  | (false, machine) =>
    match Toggle.run (Workspace.tools settings) ⟨settings.toolName⟩ code machine with
    | (.error failure, machine) => (.error (.toggle failure), machine)
    | (.ok result, machine) => (.ok result, machine)

def toggleFile (settings : Settings) (path : Text) (before : Machine) :
    Except Failure Bytes × Machine :=
  match before.pause with
  | (true, machine) => (.error .interrupted, machine)
  | (false, machine) =>
    if machine.cancelled then (.ok [], machine)
    else
      match machine.system.readFile machine.here path with
      | .error refusal => (.error (.system ⟨refusal, path⟩), machine)
      | .ok (_, code) => toggle settings code machine

def toggleInPlace (settings : Settings) (path : Text) (machine : Machine) :
    Except Failure Unit × Machine :=
  match machine.system.openFile .updating machine.here path with
  | .error refusal => (.error (.system ⟨refusal, path⟩), machine)
  | .ok (location, code) =>
    match toggle settings code machine with
    | (.error failure, machine) => (.error failure, machine)
    | (.ok result, machine) =>
      let machine := { machine with system := machine.system.put location (.file result) }
      (.ok (), machine.note (.info ("Toggled " ++ String.ofList path)))

def toggleAll (settings : Settings) : List Text → Machine → Except Failure Unit × Machine
  | [], machine => (.ok (), machine)
  | path :: rest, before =>
    match before.pause with
    | (true, machine) => (.error .interrupted, machine)
    | (false, machine) =>
      if machine.cancelled then (.ok (), machine)
      else
        match toggleInPlace settings path machine with
        | (.error failure, machine) => (.error failure, machine)
        | (.ok (), machine) => toggleAll settings rest machine

def closing (output : Bytes) (before : Machine) : Ending × Machine :=
  match before.pause with
  | (true, machine) => (.interrupted output, machine)
  | (false, machine) =>
    (if machine.cancelled then .interrupted output else .finished output, machine)

def work (settings : Settings) (options : Options) (input : Bytes) (machine : Machine) :
    Ending × Machine :=
  let paths := options.paths.map fun path => (Path.ofText path).toText
  if options.write then
    match toggleAll settings paths machine with
    | (.error failure, machine) => (failure.ending, machine)
    | (.ok (), machine) => closing [] machine
  else
    let outcome := match paths with
      | [] => toggle settings input machine
      | path :: _ => toggleFile settings path machine
    match outcome with
    | (.error failure, machine) => (failure.ending, machine)
    | (.ok result, machine) => closing result machine

/-- Options that go together with no paths or with several of them. -/
def conflict? (options : Options) : Option String :=
  if options.paths.isEmpty && options.write then some "cannot use -w with standard input"
  else if 1 < options.paths.length && !options.write then some "must use -w with multiple paths"
  else none

def levelVariable : Text := "GOUSE_LOG_LEVEL".toList

/-- Upper case as far as the names of levels need it: ASCII, and the small letter without a dot that
shares its capital. -/
def upper (c : Char) : Char := if c == Char.ofNat 0x131 then 'I' else c.toUpper

def levels : List Level := [.debug, .info, .warning, .error]

/-- The least level of notes to show: the one in the environment or, if it names none, the one that
the options ask for. -/
def leastLevel (options : Options) (environment : Environment) : Level :=
  let word := String.ofList ((environment.get levelVariable).map upper)
  match levels.find? fun level => level.word == word with
  | some level => level
  | none => if options.verbose then .debug else if options.quiet then .error else .warning

def showing (level : Level) (machine : Machine) : Machine :=
  { machine with notes := machine.notes.filter fun note => level.rank ≤ note.level.rank }

def loadAndWork (options : Options) (environment : Environment) (input : Bytes)
    (machine : Machine) : Ending × Machine :=
  let loaded := Settings.load ⟨machine.system, machine.here, environment⟩ options.config
  let machine := { machine with notes := machine.notes ++ loaded.notes }
  match loaded.outcome with
  | .error (.config error) => (.misconfigured error, machine)
  | .error failure => (.crashed (.load failure), machine)
  | .ok settings => work settings options input machine

def holdsNull (options : Options) : Bool :=
  options.config.any Path.hasNull || options.paths.any Path.hasNull

def start (options : Options) (environment : Environment) (input : Bytes) (machine : Machine) :
    Ending × Machine :=
  if options.help then (.help, machine)
  else if holdsNull options then (.misuse, machine)
  else if options.version then (.version, machine)
  else
    match conflict? options with
    | some message => (.refused message.toList, machine)
    | none =>
      let (ending, machine) := loadAndWork options environment input machine
      (ending, showing (leastLevel options environment) machine)

def run (arguments : List Text) (environment : Environment) (input : Bytes) (machine : Machine) :
    Ending × Machine :=
  match Options.ofArguments arguments with
  | none => (.misuse, machine)
  | some options => start options environment input machine

end BlankUse.Command
