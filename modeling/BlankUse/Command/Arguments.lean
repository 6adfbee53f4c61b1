import BlankUse.Basic

/-!
Arguments of the command. Options and paths mix; two dashes alone end the options. Short options
combine, and an option that takes a value takes the rest of its word or the next word, whatever
that is. Of repeated values the last one counts.
-/

namespace BlankUse.Command

structure Options where
  write : Bool
  version : Bool
  verbose : Bool
  quiet : Bool
  help : Bool
  config : Option Text
  paths : List Text
  deriving DecidableEq, Repr

inductive Switch where
  | write
  | version
  | verbose
  | quiet
  | help
  | config
  deriving DecidableEq, Repr

namespace Switch

def ofLetter? : Char → Option Switch
  | 'w' => some write
  | 'v' => some version
  | 'q' => some quiet
  | 'c' => some config
  | _ => none

def longNames : List (String × Switch) :=
  [("--write", write), ("--version", version), ("--verbose", verbose), ("--quiet", quiet),
    ("--help", help), ("--config", config)]

def ofLong? (name : Text) : Option Switch := longNames.lookup (String.ofList name)

end Switch

namespace Options

def start : Options := ⟨false, false, false, false, false, none, []⟩

def set (options : Options) (switch : Switch) (value : Text) : Options :=
  match switch with
  | .write => { options with write := true }
  | .version => { options with version := true }
  | .verbose => { options with verbose := true }
  | .quiet => { options with quiet := true }
  | .help => { options with help := true }
  | .config => { options with config := some value }

def addPaths (options : Options) (paths : List Text) : Options :=
  { options with paths := options.paths ++ paths }

/-- The letters of a word of short options. The flag says that a value is still to come. -/
def setLetters (options : Options) : Text → Option (Options × Bool)
  | [] => some (options, false)
  | letter :: rest =>
    match Switch.ofLetter? letter with
    | none => none
    | some .config =>
      if rest.isEmpty then some (options, true) else some (options.set .config rest, false)
    | some switch => setLetters (options.set switch []) rest

def setLong (options : Options) (word : Text) : Option (Options × Bool) :=
  let name := word.takeWhile (· != '=')
  match Switch.ofLong? name, word.drop name.length with
  | none, _ => none
  | some .config, [] => some (options, true)
  | some switch, [] => some (options.set switch [], false)
  | some .config, _ :: value => some (options.set .config value, false)
  | some _, _ :: _ => none

def setWord (options : Options) (word : Text) : Option (Options × Bool) :=
  match word with
  | '-' :: '-' :: _ => options.setLong word
  | '-' :: letter :: rest => options.setLetters (letter :: rest)
  | _ => some (options.addPaths [word], false)

/-- Reads words; `owed` says that the next one is the value of an option. -/
def read (options : Options) (owed : Bool) : List Text → Option Options
  | [] => if owed then none else some options
  | word :: rest =>
    if owed then read (options.set .config word) false rest
    else if word == ['-', '-'] then some (options.addPaths rest)
    else
      match options.setWord word with
      | none => none
      | some (options, owed) => read options owed rest

/-- The options in the arguments of a command; nothing if they are misused. -/
def ofArguments (arguments : List Text) : Option Options := start.read false arguments

end Options

end BlankUse.Command
