import BlankUse.Environment
import BlankUse.Settings.Timeout

/-!
Settings of the tool, read from data. Every field is checked on its own and every fault is reported:
first the faults of the fields, in the order of the fields, and then the keys that are no fields, in
the order of the data. Only a field that is nested too deep ends the check at once.
-/

namespace BlankUse

structure Settings where
  toolName : Text
  goBinary : Text
  buildFlags : List Text
  tempDir : Option Text
  workdir : Option Text
  timeout : Option Int
  deriving DecidableEq, Repr

namespace Settings

def default : Settings := ⟨"gouse".toList, "go".toList, [], none, none, none⟩

structure Checked (Result : Type) where
  outcome : Except Rejection Result
  notes : List Note

def stringText : Value → Except Flaw Text
  | .scalar (.str text) => .ok text
  | .scalar (.broken _) => .error .notUnicode
  | .scalar (.bytes bytes) =>
    match Utf8.decode? bytes with
    | some text => .ok text
    | none => .error .notUnicode
  | _ => .error .notString

def checkToolName (value : Value) : Except (List Issue) Text :=
  match stringText value with
  | .error flaw => fault flaw toolNameKey
  | .ok text =>
    if !text.isEmpty && text.all Text.isLabel then .ok text else fault .notWord toolNameKey

def plain {Result : Type} (outcome : Except (List Issue) Result) : Checked Result :=
  ⟨outcome.mapError .issues, []⟩

def expanded (environment : Environment) (store : Store) (key : Text) (value : Value) :
    Checked (Option Text) :=
  match value, store.plainText value with
  | .scalar .null, _ => plain (.ok none)
  | _, .error .tooLong => plain (fault .unwritable key)
  | _, .error .tooDeep => ⟨.error .tooDeep, []⟩
  | .scalar (.broken _), .ok text =>
    ⟨(fault .notUnicode key).mapError .issues, (environment.substitute text).2⟩
  | _, .ok text =>
    let (text, notes) := environment.substitute text
    ⟨.ok (some text), notes⟩

def present (text : Option Text) : Except (List Issue) Text :=
  match text with
  | none => fault .notString goBinaryKey
  | some [] => fault .empty goBinaryKey
  | some text => .ok text

def checkGoBinary (environment : Environment) (store : Store) (value : Value) : Checked Text :=
  let checked := expanded environment store goBinaryKey value
  ⟨checked.outcome.bind fun text => (present text).mapError .issues, checked.notes⟩

/-- The strings of a list; each item that is none is reported. -/
def checkFlags (index : Nat) : List Value → List Text × List Issue
  | [] => ([], [])
  | item :: rest =>
    match stringText item, checkFlags (index + 1) rest with
    | .ok text, (flags, issues) => (text :: flags, issues)
    | .error flaw, (flags, issues) =>
      (flags, ⟨flaw, [.key buildFlagsKey, .index index]⟩ :: issues)

/-- The items of a collection that can be taken for a list. A pair is no string whatever it holds, so
null can stand for it. -/
def listItems? (store : Store) : Value → Option (List Value)
  | .scalar _ => none
  | .collection place =>
    match store.get place with
    | .list items => some items
    | .pairs items => some (items.map fun _ => .scalar .null)
    | .set members => some (members.map .scalar)
    | .map _ => none

def checkBuildFlags (store : Store) (value : Value) : Except (List Issue) (List Text) :=
  match listItems? store value with
  | some items =>
    match checkFlags 0 items with
    | (flags, []) => .ok flags
    | (_, issues) => .error issues
  | none => fault .notList buildFlagsKey

/-- A string that is no Unicode text has three replacement characters for each half of a pair. -/
def lossyText (points : Points) : Text :=
  points.flatMap fun
    | .char value => [value]
    | .surrogate _ => List.replicate 3 (Char.ofNat 0xFFFD)

/-- A key as a step; an integer of 64 bits is a number there. -/
def keyStep : Scalar → Step
  | .str text => .key text
  | .broken points => .key (lossyText points)
  | .bool value => .index value.toNat
  | .int number =>
    if -(Int.pow 2 63) ≤ number ∧ number < Int.pow 2 63 then .index number
    else .key ((Text.decimal? number).getD "<unprintable int object>".toList)
  | other => .key (other.quotedText?.getD [])

def strangers (entries : List (Scalar × Value)) : List Issue :=
  entries.filterMap fun entry =>
    match entry.1 with
    | .str name => if fieldKeys.contains name then none else some ⟨.unknownKey, [.key name]⟩
    | other => some ⟨.keyNotString, [keyStep other]⟩

def field? (entries : List (Scalar × Value)) (key : Text) : Option Value :=
  entries.lookup (.str key)

def checkField {Result : Type} (entries : List (Scalar × Value)) (key : Text) (missing : Result)
    (check : Value → Checked Result) : Checked Result :=
  match field? entries key with
  | none => ⟨.ok missing, []⟩
  | some value => check value

def issuesOf {Result : Type} : Except Rejection Result → List Issue
  | .error (.issues issues) => issues
  | _ => []

def ofFields (toolName goBinary : Except Rejection Text) (buildFlags : Except Rejection (List Text))
    (tempDir workdir : Except Rejection (Option Text)) (timeout : Except Rejection (Option Int))
    (others : List Issue) : Except Rejection Settings :=
  let issues := issuesOf toolName ++ issuesOf goBinary ++ issuesOf buildFlags ++ issuesOf tempDir ++
    issuesOf workdir ++ issuesOf timeout ++ others
  match issues, toolName, goBinary, buildFlags, tempDir, workdir, timeout with
  | [], .ok toolName, .ok goBinary, .ok buildFlags, .ok tempDir, .ok workdir, .ok timeout =>
    .ok ⟨toolName, goBinary, buildFlags, tempDir, workdir, timeout⟩
  | issues, _, _, _, _, _, _ => .error (.issues issues)

/-- Checks every field. The first field that is nested too deep ends the check. -/
def ofEntries (environment : Environment) (store : Store) (entries : List (Scalar × Value)) :
    Checked Settings :=
  let directory (key : Text) := checkField entries key none (expanded environment store key)
  let goBinary := checkField entries goBinaryKey default.goBinary (checkGoBinary environment store)
  let tempDir := directory tempDirKey
  let workdir := directory workdirKey
  match goBinary.outcome, tempDir.outcome, workdir.outcome with
  | .error .tooDeep, _, _ => ⟨.error .tooDeep, goBinary.notes⟩
  | _, .error .tooDeep, _ => ⟨.error .tooDeep, goBinary.notes ++ tempDir.notes⟩
  | _, _, .error .tooDeep => ⟨.error .tooDeep, goBinary.notes ++ tempDir.notes ++ workdir.notes⟩
  | _, _, _ =>
    let toolName := checkField entries toolNameKey default.toolName (plain ∘ checkToolName)
    let buildFlags :=
      checkField entries buildFlagsKey default.buildFlags (plain ∘ checkBuildFlags store)
    let timeout := checkField entries timeoutKey default.timeout (plain ∘ checkTimeout)
    ⟨ofFields toolName.outcome goBinary.outcome buildFlags.outcome tempDir.outcome workdir.outcome
        timeout.outcome (strangers entries),
      goBinary.notes ++ tempDir.notes ++ workdir.notes⟩

def entries? (data : Data) : Option (List (Scalar × Value)) :=
  match data.root with
  | .scalar _ => none
  | .collection place =>
    match data.store.get place with
    | .map entries => some entries
    | _ => none

def ofData (environment : Environment) (data : Data) : Checked Settings :=
  match entries? data with
  | some entries => ofEntries environment data.store entries
  | none => plain (.error [⟨.notMap, []⟩])

def assign (key : Text) : List Issue := [⟨.frozen, [.key key]⟩]

end Settings

end BlankUse
