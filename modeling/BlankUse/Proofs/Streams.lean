import BlankUse.Proofs.InPlace

/-!
What a run may write. Files are written in place or not at all, and standard output gets the result of
one toggle or nothing. A run goes wrong before its work, and then it has only made notes, or it gets to
work with settings that are loaded; whatever goes wrong from then on is no misuse and no fault of the
configuration.
-/

namespace BlankUse.Command

open FileSystem Workspace

def begun (options : Options) (environment : Environment) (machine : Machine) : Machine :=
  { machine with notes := machine.notes ++
      (Settings.load ⟨machine.system, machine.here, environment⟩ options.config).notes }

structure Working (options : Options) (environment : Environment) (machine : Machine)
    (settings : Settings) : Prop where
  help : options.help = false
  version : options.version = false
  clean : Command.holdsNull options = false
  agreed : conflict? options = none
  loaded : (Settings.load ⟨machine.system, machine.here, environment⟩ options.config).outcome =
    .ok settings

/-- The file at a path is read and its toggle begins, on this machine. An interrupt may end the run
before that, and with the token cancelled the file is not even read. -/
structure Reads (path : Text) (machine : Machine) (code : Bytes) (now : Machine) : Prop where
  going : machine.pause.1 = false
  uncancelled : (arrived machine).cancelled = false
  read : ∃ location, machine.system.readFile machine.here path = .ok (location, code)
  begins : (arrived machine).pause = (false, now)

/-- A run that does not write in place reaches the toggle of this code with these settings, on this
machine. The code is standard input or what the one file holds that is named. -/
structure Reached (options : Options) (environment : Environment) (input : Bytes)
    (machine : Machine) (settings : Settings) (code : Bytes) (now : Machine) : Prop where
  clean : Command.holdsNull options = false
  loaded : (Settings.load ⟨machine.system, machine.here, environment⟩ options.config).outcome =
    .ok settings
  source : (options.paths = [] ∧ code = input ∧
      (begun options environment machine).pause = (false, now)) ∨
    ∃ path, options.paths = [path] ∧
      Reads (Path.ofText path).toText (begun options environment machine) code now

/-! What one toggle does. -/

def Kept (settings : Settings) (before : Machine) {Result : Type} (outcome : Except Failure Result)
    (after : Machine) : Prop :=
  match outcome with
  | .ok _ => after.system = before.system
  | .error failure => Failure.Leaves settings before failure after.system

theorem Kept.of_unmoved {settings : Settings} {start before after : Machine} {Result : Type}
    {outcome : Except Failure Result} (unmoved : Machine.Unmoved start before)
    (kept : Kept settings before outcome after) : Kept settings start outcome after := by
  obtain ⟨files, here, temp, -⟩ := unmoved
  cases outcome with
  | ok result => exact kept.trans files
  | error failure =>
      unfold Kept Failure.Leaves IsPlace at kept ⊢
      rwa [files, here, temp] at kept

theorem toggle_kept (settings : Settings) (code : Bytes) (machine : Machine) :
    Kept settings machine (toggle settings code machine).1 (toggle settings code machine).2 := by
  have unmoved := machine.pause_unmoved
  unfold toggle
  generalize machine.pause = paused at unmoved
  obtain ⟨broken, now⟩ := paused
  cases broken with
  | true => exact Or.inl unmoved.files
  | false =>
      have files := (files_kept settings machine).run unmoved ⟨settings.toolName⟩ code
      dsimp only
      generalize Toggle.run (tools settings) ⟨settings.toolName⟩ code now = ran at files
      obtain ⟨outcome, after⟩ := ran
      match outcome, files with
      | .ok result, files => exact files.files
      | .error (.diagnostic problem), files => exact Or.inl files.files
      | .error (.build cause), files =>
          rcases files with same | ⟨rfl, left⟩
          · exact Or.inl same
          · exact Or.inr ⟨rfl, left⟩

theorem toggle_result (settings : Settings) (code : Bytes) {machine now : Machine}
    (going : machine.pause = (false, now)) :
    (toggle settings code machine).1.toOption =
      (Toggle.run (tools settings) ⟨settings.toolName⟩ code now).1.toOption := by
  unfold toggle
  rw [going]
  dsimp only
  split <;> simp_all [Except.toOption]

theorem toggle_broken (settings : Settings) (code : Bytes) {machine now : Machine}
    (broken : machine.pause = (true, now)) :
    (toggle settings code machine).1.toOption = none := by
  rw [toggle, broken]
  rfl

theorem toggle_file_kept (settings : Settings) (path : Text) (machine : Machine) :
    Kept settings machine (toggleFile settings path machine).1
      (toggleFile settings path machine).2 := by
  have unmoved := machine.pause_unmoved
  unfold toggleFile
  generalize machine.pause = paused at unmoved
  obtain ⟨broken, reading⟩ := paused
  cases broken with
  | true => exact Or.inl unmoved.files
  | false =>
      dsimp only
      split
      · exact unmoved.files
      · split
        · exact Or.inl unmoved.files
        · exact (toggle_kept settings _ reading).of_unmoved unmoved

theorem toggle_file_of_reads (settings : Settings) {path : Text} {machine : Machine} {code : Bytes}
    {now : Machine} (reads : Reads path machine code now) :
    (toggleFile settings path machine).1.toOption =
      (Toggle.run (tools settings) ⟨settings.toolName⟩ code now).1.toOption := by
  obtain ⟨location, read⟩ := reads.read
  obtain ⟨files, here, -⟩ : Machine.Unmoved machine (arrived machine) := machine.pause_unmoved
  have paused : machine.pause = (false, arrived machine) := Prod.ext reads.going rfl
  rw [← files, ← here] at read
  simp only [toggleFile, paused, reads.uncancelled, Bool.false_eq_true, if_false, read]
  exact toggle_result settings code reads.begins

theorem toggle_file_unread (settings : Settings) {path : Text} {machine : Machine}
    (unread : ∀ code now, ¬ Reads path machine code now) :
    (toggleFile settings path machine).1.toOption.getD [] = [] := by
  obtain ⟨files, here, -⟩ : Machine.Unmoved machine (arrived machine) := machine.pause_unmoved
  unfold toggleFile
  cases paused : machine.pause with
  | mk broken reading =>
      obtain rfl : arrived machine = reading := congrArg Prod.snd paused
      cases broken with
      | true => rfl
      | false =>
          dsimp only
          split
          · rfl
          · next uncancelled =>
            split
            · rfl
            · next location code read =>
              rw [files, here] at read
              cases begins : (arrived machine).pause with
              | mk broken now =>
                  cases broken with
                  | true => rw [toggle_broken settings code begins]; rfl
                  | false =>
                      have reads : Reads path machine code now :=
                        ⟨by rw [paused], by simpa using uncancelled, ⟨location, read⟩, begins⟩
                      exact absurd reads (unread code now)

/-! How a run ends that has got to work. -/

def conclude (outcome : Except Failure Bytes × Machine) : Ending × Machine :=
  match outcome with
  | (.error failure, machine) => (failure.ending, machine)
  | (.ok result, machine) => closing result machine

theorem failure_silent (failure : Failure) :
    failure.ending.output = [] ∧ failure.ending.exitCode ≠ 2 := by
  by_cases interrupted : failure = .interrupted
  · rw [interrupted]
    exact ⟨rfl, by decide⟩
  · obtain ⟨silent, exit⟩ := failure_ending interrupted
    exact ⟨silent, by omega⟩

theorem closing_ending (output : Bytes) (machine : Machine) :
    (closing output machine).1.output = output ∧ (closing output machine).1.exitCode ≠ 2 ∧
      (closing output machine).2.system = machine.system := by
  have files := machine.pause_unmoved.files
  unfold closing
  generalize machine.pause = paused at files
  obtain ⟨broken, now⟩ := paused
  cases broken with
  | true => exact ⟨rfl, by simp [Ending.exitCode], files⟩
  | false =>
      obtain ⟨shown, exit⟩ := token_ending output now.cancelled
      refine ⟨shown, ?_, files⟩
      rw [exit]
      split <;> decide

theorem conclude_ending (outcome : Except Failure Bytes × Machine) :
    (conclude outcome).1.output = outcome.1.toOption.getD [] ∧ (conclude outcome).1.exitCode ≠ 2 := by
  obtain ⟨result, machine⟩ := outcome
  cases result with
  | error failure => exact failure_silent failure
  | ok result =>
      obtain ⟨shown, exit, -⟩ := closing_ending result machine
      exact ⟨shown, exit⟩

/-- What is left of the files at the end: a run whose throw-away directory could not be removed says
so. -/
theorem conclude_files {settings : Settings} {before : Machine}
    {outcome : Except Failure Bytes × Machine} (kept : Kept settings before outcome.1 outcome.2) :
    (conclude outcome).2.system = before.system ∨
      (conclude outcome).1 = .failed Workspace.Failure.notRemoved.message.toList ∧
        ∃ directory places, IsPlace settings before directory ∧
          Confined directory places before.system (conclude outcome).2.system := by
  obtain ⟨result, machine⟩ := outcome
  cases result with
  | ok result => exact Or.inl ((closing_ending result machine).2.2.trans kept)
  | error failure =>
      rcases kept with same | ⟨rfl, left⟩
      · exact Or.inl same
      · exact Or.inr ⟨rfl, left⟩

theorem work_not_in_place (settings : Settings) {options : Options} (input : Bytes)
    (machine : Machine) (write : options.write = false) :
    work settings options input machine =
      conclude (match options.paths with
        | [] => toggle settings input machine
        | path :: _ => toggleFile settings (Path.ofText path).toText machine) := by
  cases paths : options.paths with
  | nil =>
      simp only [work, write, paths, List.map_nil, Bool.false_eq_true, if_false]
      rfl
  | cons path rest =>
      simp only [work, write, paths, List.map_cons, Bool.false_eq_true, if_false]
      rfl

theorem work_exit (settings : Settings) (options : Options) (input : Bytes) (machine : Machine) :
    (work settings options input machine).1.exitCode ≠ 2 := by
  cases write : options.write with
  | false =>
      rw [work_not_in_place settings input machine write]
      exact (conclude_ending _).2
  | true =>
      simp only [work, write, if_true]
      split
      · next failure _ _ => exact (failure_silent failure).2
      · next last _ => exact (closing_ending [] last).2.1

/-! How a run gets to work. -/

/-- A run gets to work, or it has only made notes. In the second case it puts nothing out, unless it
was asked for help or for its version. -/
theorem start_cases (options : Options) (environment : Environment) (input : Bytes)
    (machine : Machine) :
    (∃ settings, Working options environment machine settings ∧
      start options environment input machine =
        ((work settings options input (begun options environment machine)).1,
          showing (leastLevel options environment)
            (work settings options input (begun options environment machine)).2)) ∨
    ((∀ settings, ¬ Working options environment machine settings) ∧
      ∃ ending notes, start options environment input machine =
          (ending, { machine with notes := notes }) ∧
        (ending.output = [] ∨
          ending.exitCode = 0 ∧ (options.help = true ∨ options.version = true))) := by
  unfold start
  split
  · next help =>
    refine Or.inr ⟨fun settings working => ?_, .help, machine.notes, rfl, Or.inr ⟨rfl, Or.inl help⟩⟩
    simp [working.help] at help
  · next noHelp =>
    split
    · next null =>
      refine Or.inr ⟨fun settings working => ?_, .misuse, machine.notes, rfl, Or.inl rfl⟩
      simp [working.clean] at null
    · next clean =>
      split
      · next version =>
        refine Or.inr ⟨fun settings working => ?_, .version, machine.notes, rfl,
          Or.inr ⟨rfl, Or.inr version⟩⟩
        simp [working.version] at version
      · next noVersion =>
        split
        · next message conflict =>
          refine Or.inr ⟨fun settings working => ?_, _, machine.notes, rfl, Or.inl rfl⟩
          simp [working.agreed] at conflict
        · next agreed =>
          cases loaded : (Settings.load ⟨machine.system, machine.here, environment⟩
            options.config).outcome with
          | ok settings =>
              refine Or.inl ⟨settings, ⟨?_, ?_, ?_, agreed, loaded⟩, ?_⟩
              · simpa using noHelp
              · simpa using noVersion
              · simpa using clean
              · simp only [loadAndWork, loaded]
                rfl
          | error failure =>
              refine Or.inr ⟨fun settings working => ?_, ?_⟩
              · rw [working.loaded] at loaded
                cases loaded
              · simp only [loadAndWork, loaded]
                cases failure <;> exact ⟨_, _, rfl, Or.inl rfl⟩

section

variable {options : Options} {environment : Environment} {machine : Machine} {settings : Settings}

theorem Reached.working {input code : Bytes} {now : Machine}
    (reached : Reached options environment input machine settings code now)
    (help : options.help = false) (version : options.version = false)
    (write : options.write = false) : Working options environment machine settings := by
  have agreed : conflict? options = none := by
    rcases reached.source with ⟨paths, -⟩ | ⟨path, paths, -⟩ <;> simp [conflict?, paths, write]
  exact ⟨help, version, reached.clean, agreed, reached.loaded⟩

theorem Working.unique {other : Settings} (working : Working options environment machine settings)
    (again : Working options environment machine other) : other = settings := by
  have same := working.loaded.symm.trans again.loaded
  exact (Except.ok.inj same).symm

theorem Working.one_path (working : Working options environment machine settings)
    (write : options.write = false) {path : Text} {rest : List Text}
    (paths : options.paths = path :: rest) : rest = [] := by
  have agreed := working.agreed
  cases rest with
  | nil => rfl
  | cons second rest => simp [conflict?, paths, write] at agreed

theorem Working.input_shown (working : Working options environment machine settings)
    (input : Bytes) (paths : options.paths = []) :
    let toggled := toggle settings input (begun options environment machine)
    (∀ code now, Reached options environment input machine settings code now →
      toggled.1.toOption = (Toggle.run (tools settings) ⟨settings.toolName⟩ code now).1.toOption) ∧
    ((∀ code now, ¬ Reached options environment input machine settings code now) →
      toggled.1.toOption.getD [] = []) := by
  intro toggled
  constructor
  · intro code now reached
    rcases reached.source with ⟨-, rfl, begins⟩ | ⟨path, others, -⟩
    · exact toggle_result settings code begins
    · rw [paths] at others
      cases others
  · intro unreached
    cases begins : (begun options environment machine).pause with
    | mk broken now =>
        cases broken with
        | true => rw [toggle_broken settings input begins]; rfl
        | false =>
            exact absurd ⟨working.clean, working.loaded, Or.inl ⟨paths, rfl, begins⟩⟩
              (unreached input now)

theorem Working.file_shown (working : Working options environment machine settings)
    (input : Bytes) {path : Text} (paths : options.paths = [path]) :
    let toggled := toggleFile settings (Path.ofText path).toText (begun options environment machine)
    (∀ code now, Reached options environment input machine settings code now →
      toggled.1.toOption = (Toggle.run (tools settings) ⟨settings.toolName⟩ code now).1.toOption) ∧
    ((∀ code now, ¬ Reached options environment input machine settings code now) →
      toggled.1.toOption.getD [] = []) := by
  intro toggled
  constructor
  · intro code now reached
    rcases reached.source with ⟨none, -⟩ | ⟨other, named, reads⟩
    · rw [paths] at none
      cases none
    · rw [paths] at named
      cases named
      exact toggle_file_of_reads settings reads
  · intro unreached
    apply toggle_file_unread
    intro code now reads
    exact unreached code now ⟨working.clean, working.loaded, Or.inr ⟨path, paths, reads⟩⟩

/-- At work without writing in place, a run puts out the result of the toggle that it reaches, or
nothing. -/
theorem Working.single (working : Working options environment machine settings)
    (write : options.write = false) (input : Bytes) :
    let ended := work settings options input (begun options environment machine)
    (ended.2.system = machine.system ∨
      ended.1 = .failed Workspace.Failure.notRemoved.message.toList ∧
        ∃ directory places, IsPlace settings machine directory ∧
          Confined directory places machine.system ended.2.system) ∧
    (∀ code now, Reached options environment input machine settings code now →
      ended.1.output =
        (Toggle.run (tools settings) ⟨settings.toolName⟩ code now).1.toOption.getD []) ∧
    ((∀ code now, ¬ Reached options environment input machine settings code now) →
      ended.1.output = []) := by
  intro ended
  have shape : ended = _ := work_not_in_place settings input (begun options environment machine) write
  rw [shape, (conclude_ending _).1]
  cases paths : options.paths with
  | nil =>
      obtain ⟨shown, silent⟩ := working.input_shown input paths
      refine ⟨conclude_files (toggle_kept settings input _), fun code now reached => ?_, silent⟩
      exact congrArg (Option.getD · []) (shown code now reached)
  | cons path rest =>
      rw [working.one_path write paths] at paths
      obtain ⟨shown, silent⟩ := working.file_shown input paths
      refine ⟨conclude_files (toggle_file_kept settings _ _), fun code now reached => ?_, silent⟩
      exact congrArg (Option.getD · []) (shown code now reached)

/-- The files of a run: all of them are as they were, unless a throw-away directory could not be
removed, and then the run says so. -/
def Untouched (options : Options) (environment : Environment) (before : Machine) (ending : Ending)
    (after : Machine) : Prop :=
  after.system = before.system ∨
    ending = .failed Workspace.Failure.notRemoved.message.toList ∧
      ∃ settings directory places, Working options environment before settings ∧
        IsPlace settings before directory ∧ Confined directory places before.system after.system

theorem start_not_in_place (help : options.help = false) (version : options.version = false)
    (write : options.write = false) (input : Bytes) :
    let ended := start options environment input machine
    Untouched options environment machine ended.1 ended.2 ∧
    (∀ settings code now, Reached options environment input machine settings code now →
      ended.1.output =
        (Toggle.run (tools settings) ⟨settings.toolName⟩ code now).1.toOption.getD []) ∧
    ((∀ settings code now, ¬ Reached options environment input machine settings code now) →
      ended.1.output = []) := by
  intro ended
  rcases start_cases options environment input machine with
    ⟨settings, working, begins⟩ | ⟨idle, ending, notes, stopped, silent⟩
  · obtain ⟨files, shows, unreached⟩ := working.single write input
    simp only [ended, begins]
    refine ⟨?_, ?_, fun none => unreached (none settings)⟩
    · rcases files with same | ⟨told, directory, places, left⟩
      · exact Or.inl same
      · exact Or.inr ⟨told, settings, directory, places, working, left⟩
    · intro other code now reached
      have same := working.unique (reached.working help version write)
      subst same
      exact shows code now reached
  · simp only [ended, stopped]
    refine ⟨Or.inl rfl, ?_, ?_⟩
    · intro settings code now reached
      exact absurd (reached.working help version write) (idle settings)
    · intro _
      rcases silent with nothing | ⟨-, asked⟩
      · exact nothing
      · simp [help, version] at asked

theorem start_exit_two {input : Bytes}
    (two : (start options environment input machine).1.exitCode = 2) :
    (start options environment input machine).1.output = [] ∧
      ∃ notes, (start options environment input machine).2 = { machine with notes := notes } := by
  rcases start_cases options environment input machine with
    ⟨settings, working, begins⟩ | ⟨-, ending, notes, stopped, silent⟩
  · rw [begins] at two
    exact absurd two (work_exit settings options input _)
  · rw [stopped] at two ⊢
    rcases silent with nothing | ⟨zero, -⟩
    · exact ⟨nothing, notes, rfl⟩
    · rw [zero] at two
      cases two

end

theorem Untouched.kept {options : Options} {environment : Environment} {before after : Machine}
    {ending : Ending} (untouched : Untouched options environment before ending after)
    {location : Location} {entry : Entry} (found : before.system.find? location = some entry) :
    after.system.find? location = some entry := by
  rcases untouched with same | ⟨-, settings, directory, places, -, -, confined⟩
  · rw [same, found]
  · exact confined.kept found

/-- Only a run in place writes files. A run of another kind leaves each file as it is, and adds none
unless a throw-away directory cannot be removed, which it then says. It puts out the result of the one
toggle that it reaches, or nothing if it reaches none or the toggle fails. Arguments that are misused
and settings that cannot be loaded end a run with the exit code two. A run that ends so has put out
nothing and done nothing but make notes: it has started no build. -/
theorem only_in_place_writes (arguments : List Text) (environment : Environment) (input : Bytes)
    (machine : Machine) :
    let ended := (run arguments environment input machine).1
    let after := (run arguments environment input machine).2
    (∀ options, Options.ofArguments arguments = some options → options.help = false →
      options.version = false → options.write = false →
        (∀ location entry, machine.system.find? location = some entry →
          after.system.find? location = some entry) ∧
        Untouched options environment machine ended after ∧
        (∀ settings code now, Reached options environment input machine settings code now →
          ended.output =
            (Toggle.run (tools settings) ⟨settings.toolName⟩ code now).1.toOption.getD []) ∧
        ((∀ settings code now, ¬ Reached options environment input machine settings code now) →
          ended.output = [])) ∧
    (Options.ofArguments arguments = none → ended.exitCode = 2) ∧
    (ended.exitCode = 2 →
      ended.output = [] ∧ ∃ notes, after = { machine with notes := notes }) := by
  intro ended after
  have started : ∀ {options}, Options.ofArguments arguments = some options →
      run arguments environment input machine = start options environment input machine := by
    intro options parsed
    rw [run, parsed]
  refine ⟨?_, ?_, ?_⟩
  · intro options parsed help version write
    simp only [ended, after, started parsed]
    obtain ⟨untouched, shown⟩ := start_not_in_place help version write input
    exact ⟨fun _ _ => untouched.kept, untouched, shown⟩
  · intro misused
    simp only [ended, run, misused]
    rfl
  · intro two
    cases parsed : Options.ofArguments arguments with
    | none =>
        simp only [ended, after, run, parsed]
        exact ⟨rfl, machine.notes, rfl⟩
    | some options =>
        simp only [ended, after, started parsed] at two ⊢
        exact start_exit_two two

/-- One file with an unused variable; the user interrupts while the second build runs. -/
def interruptedMachine : Machine :=
  ⟨⟨[([['t', 'm', 'p']], .directory), ([['a']], .file (Marker.ascii ['v']))], []⟩, [],
    "/tmp".toList, fun _ => ['1'], [(['g', 'o'], .ready)], [],
    [.smooth, ⟨1, Marker.ascii "a.go:1:1: declared and not used: v".toList, 1, none, .done⟩],
    [], true, false, [], []⟩

/-- One file to standard output while the user interrupts, and a run in place without a file. -/
theorem only_in_place_writes_interrupted :
    let shown := run [['a']] [] [] interruptedMachine
    let refused := run [['-', 'w']] [] [] interruptedMachine
    shown.2.system.find? [['a']] = some (.file (Marker.ascii ['v'])) ∧ shown.1.exitCode = 130 ∧
      shown.1.output = Marker.ascii "v; _ = v /* TODO: gouse */".toList ∧
      refused.1.exitCode = 2 ∧ refused.1.output = [] ∧
      ∃ notes, refused.2 = { interruptedMachine with notes := notes } := by
  intro shown refused
  have showing := (only_in_place_writes [['a']] [] [] interruptedMachine).1
    ⟨false, false, false, false, false, none, [['a']]⟩ rfl rfl rfl rfl
  have reads : Reads ['a'] (begun ⟨false, false, false, false, false, none, [['a']]⟩ []
      interruptedMachine) (Marker.ascii ['v']) (arrived (begun _ [] interruptedMachine)).pause.2 :=
    ⟨rfl, rfl, ⟨[['a']], rfl⟩, rfl⟩
  have reached : Reached ⟨false, false, false, false, false, none, [['a']]⟩ [] []
      interruptedMachine Settings.default (Marker.ascii ['v']) _ :=
    ⟨rfl, rfl, Or.inr ⟨['a'], rfl, reads⟩⟩
  have exit : refused.1.exitCode = 2 := rfl
  have nothing := (only_in_place_writes [['-', 'w']] [] [] interruptedMachine).2.2 exit
  exact ⟨showing.1 _ _ rfl, by rfl, (showing.2.2.1 _ _ _ reached).trans (by rfl), exit, nothing.1,
    nothing.2⟩

end BlankUse.Command
