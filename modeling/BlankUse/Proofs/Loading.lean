import BlankUse.Proofs.Streams
import BlankUse.Proofs.TextBlocks

/-!
How loading settings fails. Most failures are configuration errors, and they end a run with the exit
code two and a message. Four kinds of failure escape: a name that the system does not look up, bytes
that are no text, a scalar or a nesting that cannot be read, and a field that is nested too deep to be
written out. A run that meets one of them crashes.
-/

namespace BlankUse.Settings

/-- Content that is text and not too long for settings, with its line ends made line feeds. -/
def Legible (content : Bytes) (text : Text) : Prop :=
  ∃ decoded, Utf8.decode? content = some decoded ∧ TextFile.unifyLineEnds decoded = text ∧
    text.length ≤ sizeLimit

def DeepField (store : Store) (entries : List (Scalar × Value)) (key : Text) : Prop :=
  ∃ value, field? entries key = some value ∧ store.plainText value = .error .tooDeep

def writtenKeys : List Text := [goBinaryKey, tempDirKey, workdirKey]

/-- A failure to load the file at a path that is no configuration error. -/
inductive Escapes (place : Surroundings) (path : Text) : LoadFailure → Prop
  | name :
      place.system.resolve place.here path = .error .nameTooLong →
      Escapes place path (.system ⟨.nameTooLong, path⟩)
  | bytes {location : Location} {content : Bytes} :
      place.system.readFile place.here path = .ok (location, content) →
      Utf8.decode? content = none → TextFile.read? (sizeLimit + 1) content = none →
      Escapes place path .undecodable
  | misread {location : Location} {content : Bytes} {text : Text} {misreading : Yaml.Misreading} :
      place.system.readFile place.here path = .ok (location, content) → Legible content text →
      Yaml.read text = .error (.unreadable misreading) →
      Escapes place path (.unreadable misreading)
  | depth {location : Location} {content : Bytes} {text : Text} {data : Data}
      {entries : List (Scalar × Value)} {key : Text} :
      place.system.readFile place.here path = .ok (location, content) → Legible content text →
      Yaml.read text = .ok data → entries? data = some entries → key ∈ writtenKeys →
      DeepField data.store entries key →
      Escapes place path .tooDeep

def LoadFailure.Uncaught (failure : LoadFailure) : Prop := ∀ error, .config error ≠ failure

variable {place : Surroundings} {path : Text} {failure : LoadFailure} {content : Bytes}

theorem Escapes.uncaught (escapes : Escapes place path failure) : failure.Uncaught := by
  intro error same
  subst same
  cases escapes

/-! What a file holds. -/

theorem file_content_ok_iff :
    fileContent place path = .ok content ↔
      ∃ location, place.system.readFile place.here path = .ok (location, content) := by
  unfold fileContent FileSystem.readFile FileSystem.openFile
  cases place.system.resolve place.here path with
  | error refusal => cases refusal <;> simp
  | ok location =>
      dsimp only
      cases place.system.find? location with
      | none => simp
      | some entry =>
          cases entry with
          | directory => simp
          | file held =>
              dsimp only
              cases place.system.bars.lookup (.reading, location) <;> simp

theorem file_content_escapes (uncaught : failure.Uncaught) :
    fileContent place path = .error failure ↔
      place.system.resolve place.here path = .error .nameTooLong ∧
        failure = .system ⟨.nameTooLong, path⟩ := by
  unfold LoadFailure.Uncaught at uncaught
  unfold fileContent
  cases found : place.system.resolve place.here path with
  | error refusal =>
      rcases FileSystem.resolve_refusal found with rfl | rfl | rfl
      · simp [uncaught]
      · simp [uncaught]
      · simp [eq_comm (b := failure)]
  | ok location =>
      dsimp only
      split
      · split <;> simp [uncaught]
      · simp [uncaught]

theorem legible_iff {text : Text} :
    Legible content text ↔
      TextFile.read? (sizeLimit + 1) content = some text ∧ text.length ≤ sizeLimit :=
  TextFile.read_short_iff.symm

theorem file_data_ok_iff {data : Data} :
    fileData path content = .ok data ↔
      ∃ text, Legible content text ∧ Yaml.read text = .ok data := by
  simp only [legible_iff, fileData]
  cases read : TextFile.read? (sizeLimit + 1) content with
  | none => simp
  | some text =>
      dsimp only
      split
      · next long => simp [Nat.not_le.mpr long]
      · next short =>
        rw [Nat.not_lt] at short
        split <;> simp_all

theorem file_data_escapes (uncaught : failure.Uncaught) :
    fileData path content = .error failure ↔
      (failure = .undecodable ∧ TextFile.read? (sizeLimit + 1) content = none) ∨
      ∃ text misreading, Legible content text ∧
        Yaml.read text = .error (.unreadable misreading) ∧ failure = .unreadable misreading := by
  unfold LoadFailure.Uncaught at uncaught
  simp only [legible_iff, fileData]
  cases read : TextFile.read? (sizeLimit + 1) content with
  | none => simp [eq_comm (b := failure)]
  | some text =>
      dsimp only
      split
      · next long => simp [Nat.not_le.mpr long, uncaught]
      · next short =>
        rw [Nat.not_lt] at short
        split <;> simp_all [eq_comm (b := failure)]

/-! Fields that are nested too deep. -/

section

variable {environment : Environment} {store : Store} {entries : List (Scalar × Value)}

theorem expanded_deep_iff {key : Text} {value : Value} :
    (expanded environment store key value).outcome = .error .tooDeep ↔
      store.plainText value = .error .tooDeep := by
  unfold expanded
  split
  · simp only [Store.plainText, Store.scalarText, plain, Except.mapError]
    split <;> simp
  · next long => simp [long, plain, fault, Except.mapError]
  · next deep => simp [deep]
  · next written => simp [written, fault, Except.mapError]
  · next written => simp [written]

theorem check_go_binary_deep_iff {value : Value} :
    (checkGoBinary environment store value).outcome = .error .tooDeep ↔
      store.plainText value = .error .tooDeep := by
  have written : (expanded environment store goBinaryKey value).outcome = .error .tooDeep ↔
      store.plainText value = .error .tooDeep := expanded_deep_iff
  rw [← written]
  simp only [checkGoBinary]
  cases (expanded environment store goBinaryKey value).outcome with
  | error rejection => simp [Except.bind]
  | ok text =>
      simp only [Except.bind, Except.mapError]
      split <;> simp

theorem check_field_deep_iff {Result : Type} {key : Text} {missing : Result}
    {check : Value → Checked Result}
    (deep : ∀ value, (check value).outcome = .error .tooDeep ↔
      store.plainText value = .error .tooDeep) :
    (checkField entries key missing check).outcome = .error .tooDeep ↔
      DeepField store entries key := by
  unfold checkField DeepField
  split
  · next absent => simp [absent]
  · next value found => simp [found, deep]

theorem of_fields_not_deep (toolName goBinary : Except Rejection Text)
    (buildFlags : Except Rejection (List Text)) (tempDir workdir : Except Rejection (Option Text))
    (timeout : Except Rejection (Option Int)) (strange : List Issue) :
    ofFields toolName goBinary buildFlags tempDir workdir timeout strange ≠ .error .tooDeep := by
  simp only [ofFields]
  split <;> simp

theorem of_entries_deep_iff :
    (ofEntries environment store entries).outcome = .error .tooDeep ↔
      ∃ key ∈ writtenKeys, DeepField store entries key := by
  have goBinary : (checkField entries goBinaryKey default.goBinary
      (checkGoBinary environment store)).outcome = .error .tooDeep ↔
        DeepField store entries goBinaryKey :=
    check_field_deep_iff fun _ => check_go_binary_deep_iff
  have directory : ∀ key, (checkField entries key none
      (expanded environment store key)).outcome = .error .tooDeep ↔ DeepField store entries key :=
    fun _ => check_field_deep_iff fun _ => expanded_deep_iff
  simp only [writtenKeys, List.mem_cons, List.not_mem_nil, or_false, exists_eq_or_imp,
    exists_eq_left]
  rw [← goBinary, ← directory tempDirKey, ← directory workdirKey]
  simp only [ofEntries]
  split
  · next deep => simp [deep]
  · next deep _ => simp [deep]
  · next deep _ _ => simp [deep]
  · next first second third =>
    simp only [of_fields_not_deep, false_iff, not_or]
    exact ⟨first, second, third⟩

theorem of_read_escapes (uncaught : failure.Uncaught) {data : Data} :
    (ofRead environment path data).outcome = .error failure ↔
      failure = .tooDeep ∧ ∃ entries, entries? data = some entries ∧
        ∃ key ∈ writtenKeys, DeepField data.store entries key := by
  unfold LoadFailure.Uncaught at uncaught
  have checked : ∀ entries, (∃ key ∈ writtenKeys, DeepField data.store entries key) ↔
      (ofEntries environment data.store entries).outcome = .error .tooDeep :=
    fun _ => of_entries_deep_iff.symm
  cases root : data.root with
  | collection place =>
      simp only [checked]
      cases found : entries? data with
      | none => simp [ofRead, root, found, uncaught]
      | some entries =>
          simp only [ofRead, root, found]
          split <;> simp_all [eq_comm (b := failure)]
  | scalar value =>
      -- Only null is taken for a map. It is an empty one, and that has no field at all.
      have empty : (ofEntries environment data.store []).outcome ≠ .error .tooDeep := by
        rw [ne_eq, ← checked]
        simp [DeepField, field?]
      have missing : entries? data = none := by simp [entries?, root]
      simp only [ofRead, root, missing]
      split
      · simp [uncaught]
      · simp [uncaught]
      · next deep =>
        split at deep
        · rw [Except.ok.inj deep] at empty
          exact absurd rfl empty
        · next impossible _ => cases impossible
        · cases deep
      · simp

end

/-! All steps together. -/

theorem load_file_escapes_iff (uncaught : failure.Uncaught) :
    (loadFile place path).outcome = .error failure ↔ Escapes place path failure := by
  unfold loadFile
  constructor
  · intro failed
    split at failed
    · next refused =>
      cases failed
      obtain ⟨lost, rfl⟩ := (file_content_escapes uncaught).mp refused
      exact .name lost
    · next content held =>
      obtain ⟨location, read⟩ := file_content_ok_iff.mp held
      split at failed
      · next refused =>
        cases failed
        rcases (file_data_escapes uncaught).mp refused with
          ⟨rfl, unread⟩ | ⟨text, misreading, legible, unreadable, rfl⟩
        · exact .bytes read (TextFile.broken_of_read unread) unread
        · exact .misread read legible unreadable
      · next data taken =>
        obtain ⟨text, legible, parsed⟩ := file_data_ok_iff.mp taken
        obtain ⟨rfl, entries, found, key, member, deep⟩ := (of_read_escapes uncaught).mp failed
        exact .depth read legible parsed found member deep
  · intro escapes
    cases escapes with
    | name lost => rw [(file_content_escapes uncaught).mpr ⟨lost, rfl⟩]
    | bytes read _ unread =>
        rw [file_content_ok_iff.mpr ⟨_, read⟩]
        dsimp only
        rw [(file_data_escapes uncaught).mpr (Or.inl ⟨rfl, unread⟩)]
    | misread read legible unreadable =>
        rw [file_content_ok_iff.mpr ⟨_, read⟩]
        dsimp only
        rw [(file_data_escapes uncaught).mpr (Or.inr ⟨_, _, legible, unreadable, rfl⟩)]
    | depth read legible parsed found member deep =>
        rw [file_content_ok_iff.mpr ⟨_, read⟩]
        dsimp only
        rw [file_data_ok_iff.mpr ⟨_, legible, parsed⟩]
        exact (of_read_escapes uncaught).mpr ⟨rfl, _, found, _, member, deep⟩

theorem load_escapes_iff {asked : Option Text} (uncaught : failure.Uncaught) :
    (load place asked).outcome = .error failure ↔
      ∃ path, chosenPath place.environment asked = some path ∧
        Escapes place (Path.ofText path).toText failure := by
  unfold load
  split
  · next unnamed => simp [unnamed]
  · next chosen => simp [chosen, load_file_escapes_iff uncaught]

theorem Escapes.of_broken {location : Location}
    (read : place.system.readFile place.here path = .ok (location, content))
    (broken : Utf8.decode? content = none)
    (short : (TextFile.unifyLineEnds (Utf8.decodeLossy content)).length ≤ sizeLimit) :
    Escapes place path .undecodable := by
  rcases TextFile.read_of_broken broken with refused | ⟨text, -, -, long⟩
  · exact .bytes read broken refused
  · exact absurd (Nat.le_trans long short) (Nat.not_succ_le_self _)

end BlankUse.Settings

namespace BlankUse.Command

open Settings

/-- The arguments ask for a toggle with these options, and nothing is wrong with them. -/
structure InOrder (arguments : List Text) (options : Options) : Prop where
  parsed : Options.ofArguments arguments = some options
  help : options.help = false
  version : options.version = false
  clean : Command.holdsNull options = false
  agreed : conflict? options = none

variable {arguments : List Text} {options : Options} {environment : Environment} {input : Bytes}
  {machine : Machine}

theorem InOrder.ending (order : InOrder arguments options) :
    (run arguments environment input machine).1 =
      (loadAndWork options environment input machine).1 := by
  simp only [run, order.parsed, start, order.help, order.clean, order.version, order.agreed,
    Bool.false_eq_true, if_false]

theorem load_and_work_misconfigured {error : ConfigError}
    (failed : (load ⟨machine.system, machine.here, environment⟩ options.config).outcome =
      .error (.config error)) :
    (loadAndWork options environment input machine).1 = .misconfigured error := by
  simp only [loadAndWork, failed]

theorem load_and_work_crashed {failure : LoadFailure} (uncaught : failure.Uncaught)
    (failed : (load ⟨machine.system, machine.here, environment⟩ options.config).outcome =
      .error failure) :
    (loadAndWork options environment input machine).1 = .crashed (.load failure) := by
  simp only [loadAndWork, failed]
  split
  · next same =>
    cases same
    exact absurd rfl (uncaught _)
  · next same =>
    cases same
    rfl
  · next same => cases same

theorem load_and_work_exit_two_iff :
    (loadAndWork options environment input machine).1.exitCode = 2 ↔
      ∃ error, (load ⟨machine.system, machine.here, environment⟩ options.config).outcome =
        .error (.config error) := by
  simp only [loadAndWork]
  split
  · next error failed => simp [failed, Ending.exitCode]
  · next failure other failed => 
    simp only [failed, Ending.exitCode]
    simpa using other
  · next settings loaded => simp [loaded, work_exit]

/-- Settings that cannot be loaded. A failure that is no configuration error is one of those that
escape, and bytes that are no text escape from every file of admissible length. A run that is told to
toggle ends with the exit code two exactly if the failure is a configuration error, and then it puts
nothing out and shows the message. A failure that escapes crashes it without a message. -/
theorem uncaught_failures_crash (options : Options) (environment : Environment) (machine : Machine) :
    let place : Surroundings := ⟨machine.system, machine.here, environment⟩
    let loaded := (load place options.config).outcome
    (∀ failure, failure.Uncaught →
      (loaded = .error failure ↔
        ∃ path, chosenPath environment options.config = some path ∧
          Escapes place (Path.ofText path).toText failure)) ∧
    (∀ path location content, chosenPath environment options.config = some path →
      machine.system.readFile machine.here (Path.ofText path).toText = .ok (location, content) →
      Utf8.decode? content = none →
      (TextFile.unifyLineEnds (Utf8.decodeLossy content)).length ≤ sizeLimit →
        loaded = .error .undecodable) ∧
    ∀ arguments input, InOrder arguments options →
      let ended := (run arguments environment input machine).1
      (ended.exitCode = 2 ↔ ∃ error, loaded = .error (.config error)) ∧
      (∀ error, loaded = .error (.config error) →
        ended.output = [] ∧ Console.errorText error.message.toList <+: ended.console) ∧
      ∀ failure, failure.Uncaught → loaded = .error failure →
        ended = .crashed (.load failure) ∧ ended.exitCode = 1 ∧ ended.console = [] := by
  intro place loaded
  refine ⟨?_, ?_, ?_⟩
  · intro failure uncaught
    exact load_escapes_iff uncaught
  · intro path location content chosen read broken short
    have escapes : Escapes place (Path.ofText path).toText .undecodable :=
      .of_broken read broken short
    exact (load_escapes_iff escapes.uncaught).mpr ⟨path, chosen, escapes⟩
  · intro arguments input order ended
    have ending : ended = (loadAndWork options environment input machine).1 := order.ending
    refine ⟨?_, ?_, ?_⟩
    · rw [ending]
      exact load_and_work_exit_two_iff
    · intro error failed
      rw [ending, load_and_work_misconfigured failed]
      exact ⟨rfl, List.prefix_append _ _⟩
    · intro failure uncaught failed
      rw [ending, load_and_work_crashed uncaught failed]
      exact ⟨rfl, rfl, rfl⟩

def illegibleMachine : Machine :=
  ⟨⟨[([['c']], .file [0xFF])], []⟩, [], "/tmp".toList, fun _ => ['1'], [], [], [], [], false, false,
    [], []⟩

/-- A file that is no text crashes the run; a file that does not exist does not. -/
theorem uncaught_failures_crash_illegible :
    let illegible := (run [['-', 'c'], ['c']] [] [] illegibleMachine).1
    let absent := (run [['-', 'c'], ['d']] [] [] illegibleMachine).1
    illegible = .crashed (.load .undecodable) ∧ illegible.exitCode = 1 ∧ illegible.console = [] ∧
      absent.exitCode = 2 ∧ absent.output = [] ∧
      Console.errorText (ConfigError.notFound ['d']).message.toList <+: absent.console := by
  intro illegible absent
  have reads : (load ⟨illegibleMachine.system, [], []⟩ (some ['c'])).outcome =
      .error .undecodable :=
    (uncaught_failures_crash ⟨false, false, false, false, false, some ['c'], []⟩ []
      illegibleMachine).2.1 ['c'] [['c']] [0xFF] rfl rfl rfl (by decide)
  obtain ⟨-, -, crash⟩ := (uncaught_failures_crash
    ⟨false, false, false, false, false, some ['c'], []⟩ [] illegibleMachine).2.2
      [['-', 'c'], ['c']] [] ⟨rfl, rfl, rfl, rfl, rfl⟩
  obtain ⟨crashed, one, unsaid⟩ := crash .undecodable (fun _ same => nomatch same) reads
  have missing : (load ⟨illegibleMachine.system, [], []⟩ (some ['d'])).outcome =
      .error (.config (.notFound ['d'])) := rfl
  obtain ⟨two, message, -⟩ := (uncaught_failures_crash
    ⟨false, false, false, false, false, some ['d'], []⟩ [] illegibleMachine).2.2
      [['-', 'c'], ['d']] [] ⟨rfl, rfl, rfl, rfl, rfl⟩
  obtain ⟨silent, shown⟩ := message _ missing
  exact ⟨crashed, one, unsaid, two.mpr ⟨_, missing⟩, silent, shown⟩

end BlankUse.Command
