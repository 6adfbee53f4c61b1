import BlankUse.FileSystem
import BlankUse.Settings
import BlankUse.TextFile
import BlankUse.Yaml.Document

/-!
Settings from a file. The file is the one that is asked for, else the one that an environment
variable names; without either the defaults hold. Faults of the file and of its data are
configuration errors. Bytes that are no text, scalars that look like numbers or dates and are none,
values that are nested too deep, and names the system cannot even look up are failures of another
kind, and nothing here turns them into configuration errors.
-/

namespace BlankUse.Settings

inductive ConfigError where
  | notFound (path : Text)
  | notFile (path : Text)
  | cannotRead (path : Text) (cause : SystemError)
  | tooLarge (path : Text)
  | malformed (path : Text)
  | notMapping (kind : String)
  | invalid (path : Text) (issues : List Issue)
  deriving DecidableEq, Repr

def ConfigError.message : ConfigError → String
  | notFound path => "Config file not found: " ++ String.ofList path
  | notFile path => "Config path is not a file: " ++ String.ofList path
  | cannotRead path cause =>
    "Cannot read config file " ++ String.ofList path ++ ": " ++ cause.message
  | tooLarge path => "Config file " ++ String.ofList path ++ " exceeds 64KB limit"
  | malformed path => "Invalid YAML in " ++ String.ofList path
  | notMapping kind => "Config file must be a YAML mapping, got " ++ kind
  | invalid path _ => "Config validation failed for " ++ String.ofList path

inductive LoadFailure where
  | config (error : ConfigError)
  | undecodable
  | unreadable (misreading : Yaml.Misreading)
  | tooDeep
  | system (error : SystemError)
  deriving DecidableEq, Repr

def configVariable : Text := "GOUSE_CONFIG".toList

def sizeLimit : Nat := 64 * 1024

structure Surroundings where
  system : FileSystem
  here : Location
  environment : Environment

structure Loaded where
  outcome : Except LoadFailure Settings
  notes : List Note

def fileContent (place : Surroundings) (path : Text) : Except LoadFailure Bytes :=
  match place.system.resolve place.here path with
  | .error .missing => .error (.config (.notFound path))
  | .error .notDirectory => .error (.config (.notFound path))
  | .error refusal => .error (.system ⟨refusal, path⟩)
  | .ok location =>
    match place.system.find? location with
    | some (.file content) =>
      match place.system.bars.lookup (.reading, location) with
      | some refusal => .error (.config (.cannotRead path ⟨refusal, path⟩))
      | none => .ok content
    | _ => .error (.config (.notFile path))

/-- Settings from what a file holds. No data at all is an empty map. -/
def ofRead (environment : Environment) (path : Text) (data : Data) : Loaded :=
  let checked : Except String (Checked Settings) :=
    match data.root, entries? data with
    | .scalar .null, _ => .ok (ofEntries environment data.store [])
    | _, some entries => .ok (ofEntries environment data.store entries)
    | other, none => .error (data.store.kind other)
  match checked with
  | .error kind => ⟨.error (.config (.notMapping kind)), []⟩
  | .ok ⟨.error (.issues issues), notes⟩ => ⟨.error (.config (.invalid path issues)), notes⟩
  | .ok ⟨.error .tooDeep, notes⟩ => ⟨.error .tooDeep, notes⟩
  | .ok ⟨.ok settings, notes⟩ =>
    ⟨.ok settings, notes ++ [.debug ("Loaded config from " ++ String.ofList path)]⟩

def fileData (path : Text) (content : Bytes) : Except LoadFailure Data :=
  match TextFile.read? (sizeLimit + 1) content with
  | none => .error .undecodable
  | some text =>
    if sizeLimit < text.length then .error (.config (.tooLarge path))
    else
      match Yaml.read text with
      | .error .malformed => .error (.config (.malformed path))
      | .error (.unreadable misreading) => .error (.unreadable misreading)
      | .ok data => .ok data

def loadFile (place : Surroundings) (path : Text) : Loaded :=
  match fileContent place path with
  | .error failure => ⟨.error failure, []⟩
  | .ok content =>
    match fileData path content with
    | .error failure => ⟨.error failure, []⟩
    | .ok data => ofRead place.environment path data

/-- The path to load from: the one asked for, or the one in the environment. -/
def chosenPath (environment : Environment) (asked : Option Text) : Option Text :=
  match asked with
  | some path => some path
  | none =>
    match Text.trim Text.isBlank (environment.get configVariable) with
    | [] => none
    | path => some path

def load (place : Surroundings) (asked : Option Text) : Loaded :=
  match chosenPath place.environment asked with
  | none => ⟨.ok default, [.debug "No config file given, using defaults"]⟩
  | some path => loadFile place (Path.ofText path).toText

end BlankUse.Settings
