import BlankUse.Command

/-!
The command line. It takes what a run may look at from the system, runs on that, and writes back
what has changed. Programs are not started from here: a build ends as on a machine without a
compiler.
-/

namespace BlankUse.Main

def listOf (bytes : ByteArray) : Bytes := bytes.toList

/-- The names on the way from the root to a path, without `.` and `..`. -/
def locate : Location → List Text → Location
  | here, [] => here
  | here, name :: rest =>
    if name == ['.', '.'] then locate here.dropLast rest
    else if Path.isKept name then locate (here ++ [name]) rest
    else locate here rest

def locationOf (here : Location) (path : Text) : Location :=
  locate (FileSystem.start here path) (splitOn '/' path)

def entryAt (path : Text) : IO (Option Entry) := do
  try
    let content ← IO.FS.readBinFile (String.ofList path)
    return some (.file (listOf content))
  catch error =>
    match error with
    | .inappropriateType _ _ _ => return some .directory
    | _ => return none

/-- The files at some paths, with the directories above them. -/
def systemAt (here : Location) : List Text → IO FileSystem
  | [] => return (FileSystem.mk [] []).install [] .directory here
  | path :: rest => do
    let system ← systemAt here rest
    match ← entryAt path with
    | some entry => return system.install [] entry (locationOf here path)
    | none => return system

def environmentOf : List Text → IO Environment
  | [] => return []
  | name :: rest => do
    let environment ← environmentOf rest
    match ← IO.getEnv (String.ofList name) with
    | some value => return (name, value.toList) :: environment
    | none => return environment

def referencesIn : Option Entry → List Text
  | some (.file content) =>
    (Environment.parts (Utf8.decodeLossy content)).filterMap fun part =>
      match part with
      | .reference name => some name
      | .literal _ => none
  | _ => []

partial def readAll (stream : IO.FS.Stream) (done : ByteArray) : IO ByteArray := do
  let block ← stream.read 65536
  if block.isEmpty then return done else readAll stream (done ++ block)

def readsInput (options : Command.Options) : Bool :=
  options.paths.isEmpty && !options.write && !options.help && !options.version

def writeBack (before after : FileSystem) (here : Location) : List Text → IO Unit
  | [] => return
  | path :: rest => do
    let location := locationOf here path
    match after.find? location with
    | some (.file content) =>
      if before.find? location != some (.file content) then
        IO.FS.writeBinFile (String.ofList path) ⟨content.toArray⟩
    | _ => pure ()
    writeBack before after here rest

def printNotes (notes : List Note) : IO Unit :=
  notes.forM fun note => IO.eprintln (note.level.word ++ " " ++ note.message)

def runOn (arguments : List Text) (options : Command.Options) : IO UInt32 := do
  let here := locationOf [] (← IO.currentDir).toString.toList
  let named ← environmentOf [Settings.configVariable, Command.levelVariable]
  let config := Settings.chosenPath named options.config
  let references ← config.toList.flatMapM fun path => return referencesIn (← entryAt path)
  let environment := named ++ (← environmentOf references)
  let system ← systemAt here (config.toList ++ options.paths)
  let input ← if readsInput options then readAll (← IO.getStdin) .empty else pure .empty
  let temp := (← IO.getEnv "TMPDIR").getD "/tmp"
  let drawn ← IO.monoNanosNow
  let machine : Machine :=
    ⟨system.install [] .directory (locationOf here temp.toList), here, temp.toList,
      fun index => (toString (drawn + index)).toList, [], [], [], [], true, false, [], []⟩
  let (ending, machine) := Command.run arguments environment (listOf input) machine
  writeBack system machine.system here options.paths
  printNotes machine.notes
  IO.eprint (String.ofList ending.console)
  if ending.console.getLast?.any (· != '\n') then IO.eprintln ""
  let output ← IO.getStdout
  output.write ⟨ending.output.toArray⟩
  output.flush
  return ending.exitCode.toUInt32

end BlankUse.Main

open BlankUse in
def main (arguments : List String) : IO UInt32 := do
  let words := arguments.map String.toList
  match Command.Options.ofArguments words with
  | some options => Main.runOn words options
  | none =>
    IO.eprint (String.ofList Command.Ending.misuse.console)
    return Command.Ending.misuse.exitCode.toUInt32
