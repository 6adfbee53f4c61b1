import BlankUse.Command
import BlankUse.Proofs.ThrowAway

/-!
Files that are toggled in place. A run goes through its paths in order and replaces the contents of
one file at a time by what their toggle returns, up to a failure or to a path that is reached with the
token cancelled. Whatever stops it, the files are as the last replacement left them, and a toggle that
fails has written nothing, except that a throw-away directory may be left that could not be removed.
Most failures are told and end the run with the exit code one. A limit of time that is out of bounds
and a null character are not among the failures that a run expects, and it crashes.
-/

namespace BlankUse.Command

open FileSystem Workspace

def isTold : Toggle.Failure Workspace.Failure → Bool
  | .diagnostic _ => true
  | .build cause => cause ≠ .interrupted && !isUnhandled cause

/-- What a run does not expect of a build: a limit of time that cannot be kept or told, or a null
character in a command or a path. -/
inductive Unfit (settings : Settings) (machine : Machine) : Workspace.Failure → Prop
  | unbounded {reason : String} (flawed : settings.timeout.bind limitFlaw = some reason) :
      Unfit settings machine (.limitTooLarge reason)
  | unwritable (long : settings.timeout.any Text.isTooLong = true) :
      Unfit settings machine .limitUnwritable
  | null (held : HoldsNull settings machine) : Unfit settings machine .nullCharacter

def arrived (machine : Machine) : Machine := machine.pause.2

def toggled (settings : Settings) (code : Bytes) (machine : Machine) :
    Except (Toggle.Failure Workspace.Failure) Bytes × Machine :=
  Toggle.run (tools settings) ⟨settings.toolName⟩ code (arrived machine).pause.2

/-- A path is reached and its file gets the result of toggling its contents. Nothing else is different
in the files, and all but the files and the notes is what the toggle has left. -/
structure Replaced (settings : Settings) (path : Text) (location : Location) (code result : Bytes)
    (before after : Machine) : Prop where
  going : (arrived before).cancelled = false
  opened : before.system.openFile .updating before.here path = .ok (location, code)
  returned : (toggled settings code before).1 = .ok result
  contents : ∀ other, after.system.find? other =
    if other = location then some (.file result) else before.system.find? other
  bars : after.system.bars = before.system.bars
  here : after.here = before.here
  rest : ∃ system notes,
    after = { (toggled settings code before).2 with system := system, notes := notes }

inductive ReplacedAll (settings : Settings) : List Text → Machine → Machine → Prop
  | nil (machine : Machine) : ReplacedAll settings [] machine machine
  | cons {path : Text} {rest : List Text} {location : Location} {code result : Bytes}
      {before after last : Machine}
      (first : Replaced settings path location code result before after)
      (later : ReplacedAll settings rest after last) :
      ReplacedAll settings (path :: rest) before last

/-- Why a run stops before the paths that are left, and what it comes to. -/
inductive Stopped (settings : Settings) : List Text → Machine → Except Failure Unit → Prop
  | finished (machine : Machine) : Stopped settings [] machine (.ok ())
  | cancelled (path : Text) (rest : List Text) {machine : Machine}
      (seen : (arrived machine).cancelled = true) : Stopped settings (path :: rest) machine (.ok ())
  | unopened (path : Text) (rest : List Text) {machine : Machine}
      (going : (arrived machine).cancelled = false) (refusal : Refusal)
      (refused : machine.system.openFile .updating machine.here path = .error refusal) :
      Stopped settings (path :: rest) machine (.error (.system ⟨refusal, path⟩))
  | untoggled (path : Text) (rest : List Text) {machine : Machine}
      (going : (arrived machine).cancelled = false) (location : Location) (code : Bytes)
      (opened : machine.system.openFile .updating machine.here path = .ok (location, code))
      (failure : Toggle.Failure Workspace.Failure)
      (raised : (toggled settings code machine).1 = .error failure) (told : isTold failure = true) :
      Stopped settings (path :: rest) machine (.error (.toggle failure))
  | crashed (path : Text) (rest : List Text) {machine : Machine}
      (going : (arrived machine).cancelled = false) (location : Location) (code : Bytes)
      (opened : machine.system.openFile .updating machine.here path = .ok (location, code))
      (cause : Workspace.Failure) (raised : (toggled settings code machine).1 = .error (.build cause))
      (unfit : Unfit settings machine cause) :
      Stopped settings (path :: rest) machine (.error (.toggle (.build cause)))

theorem open_file_ok {system : FileSystem} {access : Access} {here location : Location} {path : Text}
    {code : Bytes} (opened : system.openFile access here path = .ok (location, code)) :
    system.resolve here path = .ok location ∧ system.find? location = some (.file code) := by
  unfold openFile at opened
  split at opened
  · cases opened
  · next resolved led =>
    split at opened
    · next content found =>
      split at opened
      · cases opened
      · cases opened
        exact ⟨led, found⟩
    · cases opened

theorem find_not_root {system : FileSystem} {location : Location} {code : Bytes}
    (found : system.find? location = some (.file code)) : location ≠ [] := by
  rintro rfl
  cases found

section

variable {settings : Settings} {path : Text} {location : Location} {code result : Bytes}
  {before after last : Machine} {paths : List Text}

theorem Replaced.alike (replaced : Replaced settings path location code result before after) :
    Alike before.system after.system := by
  intro other
  rw [replaced.contents other]
  split
  · next same =>
    rw [same]
    exact Or.inr ⟨code, result, (open_file_ok replaced.opened).2, rfl⟩
  · exact Or.inl rfl

theorem ReplacedAll.alike (replaced : ReplacedAll settings paths before last) :
    Alike before.system last.system := by
  induction replaced with
  | nil machine => exact Alike.refl machine.system
  | cons first _ ih => exact first.alike.trans ih

/-- A file that no path leads to is not replaced. Where the paths lead is the same all along. -/
theorem ReplacedAll.untouched (replaced : ReplacedAll settings paths before last)
    {other : Location}
    (unnamed : ∀ path ∈ paths, before.system.resolve before.here path ≠ .ok other) :
    last.system.find? other = before.system.find? other := by
  induction replaced with
  | nil machine => rfl
  | @cons path rest location code result before after last first later ih =>
      have apart : other ≠ location := by
        rintro rfl
        exact unnamed path (by simp) (open_file_ok first.opened).1
      have onward : ∀ path ∈ rest, after.system.resolve after.here path ≠ .ok other := by
        intro path member
        rw [first.here, first.alike.resolve]
        exact unnamed path (by simp [member])
      rw [ih onward, first.contents other, if_neg apart]

end

/-! What becomes of a failed toggle. -/

def Failure.Leaves (settings : Settings) (before : Machine) (failure : Failure)
    (after : FileSystem) : Prop :=
  after = before.system ∨ failure = .toggle (.build .notRemoved) ∧
    ∃ directory places, IsPlace settings before directory ∧
      Confined directory places before.system after

theorem Failure.Leaves.kept {settings : Settings} {before : Machine} {failure : Failure}
    {after : FileSystem} (leaves : Failure.Leaves settings before failure after)
    {location : Location} {entry : Entry} (found : before.system.find? location = some entry) :
    after.find? location = some entry := by
  rcases leaves with same | ⟨-, directory, places, -, confined⟩
  · rw [same, found]
  · exact confined.kept found

theorem told_or_unfit {settings : Settings} {machine : Machine} {cause : Workspace.Failure}
    (known : Fails settings machine cause) (unbroken : cause ≠ .interrupted) :
    isTold (.build cause) = true ∨ Unfit settings machine cause := by
  cases known with
  | unmade obstacle => exact Or.inl rfl
  | unwritten => exact Or.inl rfl
  | late =>
      unfold timeOut
      split
      · next long => exact Or.inr (.unwritable long)
      · exact Or.inl rfl
  | null held => exact Or.inr (.null held)
  | unstarted error =>
      left
      unfold startFailure
      split
      · rfl
      · split <;> rfl
  | unbounded flawed => exact Or.inr (.unbounded flawed)
  | interrupted => exact absurd rfl unbroken
  | unremoved => exact Or.inl rfl

theorem failure_ending {failure : Failure} (foreseen : failure ≠ .interrupted) :
    failure.ending.output = [] ∧ failure.ending.exitCode = 1 := by
  cases failure with
  | system error => exact ⟨rfl, rfl⟩
  | toggle failure =>
      cases failure with
      | diagnostic problem => exact ⟨rfl, rfl⟩
      | build cause =>
          by_cases interrupted : cause = .interrupted
          · rw [interrupted] at foreseen
            exact absurd rfl foreseen
          · simp only [Failure.ending]
            split <;> exact ⟨rfl, rfl⟩

/-- On a calm machine a toggle returns a result and leaves the files alone, or it fails in a way that
is told or that the settings are unfit for. -/
theorem toggled_cases (settings : Settings) (code : Bytes) {machine : Machine}
    (calm : machine.Calm) :
    (∃ result after, toggled settings code machine = (.ok result, after) ∧
      Machine.Unmoved machine after ∧ after.Calm) ∨
    (∃ failure after, toggled settings code machine = (.error failure, after) ∧
      Failure.Leaves settings machine (.toggle failure) after.system ∧
      failure ≠ .build .interrupted ∧
      (isTold failure = true ∨ ∃ cause, failure = .build cause ∧
        Unfit settings machine cause)) := by
  have start : (arrived machine).pause.2.Calm :=
    (Machine.pause_calm (Machine.pause_calm calm).2).2
  have unmoved := machine.pause_unmoved.trans (arrived machine).pause_unmoved
  have files := (files_kept settings machine).run unmoved ⟨settings.toolName⟩ code
  have known := (causes_known settings machine).run unmoved ⟨settings.toolName⟩ code
  have quiet := (calm_kept settings).run start ⟨settings.toolName⟩ code
  unfold toggled
  generalize Toggle.run (tools settings) ⟨settings.toolName⟩ code (arrived machine).pause.2 = ran
    at files quiet known
  obtain ⟨outcome, after⟩ := ran
  match outcome, files, quiet, known with
  | .ok result, files, quiet, _ => exact Or.inl ⟨result, after, rfl, files, quiet⟩
  | .error (.diagnostic problem), files, _, _ =>
      exact Or.inr ⟨_, after, rfl, Or.inl files.files, by simp, Or.inl rfl⟩
  | .error (.build cause), files, quiet, known =>
      have unbroken : cause ≠ .interrupted := quiet
      refine Or.inr ⟨_, after, rfl, ?_, by simpa using unbroken, ?_⟩
      · rcases files with same | ⟨rfl, confined⟩
        · exact Or.inl same
        · exact Or.inr ⟨rfl, confined⟩
      · rcases told_or_unfit known quiet with told | unfit
        · exact Or.inl told
        · exact Or.inr ⟨cause, rfl, unfit⟩

theorem toggle_of_calm (settings : Settings) (code : Bytes) {machine : Machine}
    (calm : machine.Calm) :
    toggle settings code (arrived machine) =
      match toggled settings code machine with
      | (.error failure, after) => (.error (.toggle failure), after)
      | (.ok result, after) => (.ok result, after) := by
  have going := (Machine.pause_calm (Machine.pause_calm calm).2).1
  have paused : (arrived machine).pause = (false, (arrived machine).pause.2) := Prod.ext going rfl
  rw [toggle, paused]
  rfl

/-- One step of a run: the file of a path is replaced, or the run stops there. -/
theorem toggle_in_place_step (settings : Settings) (path : Text) (rest : List Text)
    {machine : Machine} (calm : machine.Calm) (going : (arrived machine).cancelled = false) :
    (∃ location code result after, toggleInPlace settings path (arrived machine) = (.ok (), after) ∧
      Replaced settings path location code result machine after ∧ after.Calm) ∨
    (∃ failure after, toggleInPlace settings path (arrived machine) = (.error failure, after) ∧
      Stopped settings (path :: rest) machine (.error failure) ∧
      Failure.Leaves settings machine failure after.system ∧ failure ≠ .interrupted) := by
  obtain ⟨files, here, -⟩ : Machine.Unmoved machine (arrived machine) := machine.pause_unmoved
  unfold toggleInPlace
  rw [files, here]
  split
  · next refusal refused =>
    exact Or.inr ⟨_, _, rfl, .unopened path rest going refusal refused, Or.inl files,
      by simp [Failure.interrupted]⟩
  · next location code opened =>
    rw [toggle_of_calm settings code calm]
    rcases toggled_cases settings code calm with
      ⟨result, after, ran, ⟨kept, stayed, -⟩, calmAfter⟩ |
      ⟨failure, after, ran, leaves, unbroken, known⟩
    · rw [ran]
      refine Or.inl ⟨location, code, result, _, rfl, ⟨going, opened, by rw [ran], ?_, ?_, stayed, ?_⟩,
        calmAfter⟩
      · intro other
        rw [← kept]
        exact find_put _ (find_not_root (open_file_ok opened).2) _ other
      · rw [← kept]
        exact put_bars _ _ _
      · exact ⟨_, _, by rw [ran]; rfl⟩
    · have raised : (toggled settings code machine).1 = .error failure := by rw [ran]
      have stopped : Stopped settings (path :: rest) machine (.error (.toggle failure)) := by
        rcases known with told | ⟨cause, rfl, unfit⟩
        · exact .untoggled path rest going location code opened failure raised told
        · exact .crashed path rest going location code opened cause raised unfit
      rw [ran]
      refine Or.inr ⟨_, _, rfl, stopped, leaves, ?_⟩
      rintro ⟨⟩
      exact unbroken rfl

/-- What is left when a run stops: after all paths or before one with the token cancelled, the files
and the token are as they were then; after a failure it depends on the failure. -/
structure Ended (settings : Settings) (stopped : Machine) (outcome : Except Failure Unit)
    (last : Machine) : Prop where
  done : outcome = .ok () → last.system = stopped.system ∧ last.Calm ∧
    (arrived last).cancelled = (arrived stopped).cancelled
  failed : ∀ failure, outcome = .error failure →
    Failure.Leaves settings stopped failure last.system ∧ failure ≠ .interrupted

/-- A run replaces the files of its first paths and stops before the others. -/
theorem toggle_all_trace (settings : Settings) (paths : List Text) {machine : Machine}
    (calm : machine.Calm) :
    ∃ processed remaining stopped, paths = processed ++ remaining ∧
      ReplacedAll settings processed machine stopped ∧
      Stopped settings remaining stopped (toggleAll settings paths machine).1 ∧
      Ended settings stopped (toggleAll settings paths machine).1
        (toggleAll settings paths machine).2 := by
  induction paths generalizing machine with
  | nil =>
      exact ⟨[], [], machine, rfl, .nil machine, .finished machine,
        ⟨fun _ => ⟨rfl, calm, rfl⟩, by simp [toggleAll]⟩⟩
  | cons path rest ih =>
      -- Calm is what each step keeps: no interrupt on the way to a path or in its toggle ends the run.
      obtain ⟨unbroken, calmNow⟩ := Machine.pause_calm calm
      have paused : machine.pause = (false, arrived machine) := Prod.ext unbroken rfl
      rw [toggleAll, paused]
      cases seen : (arrived machine).cancelled with
      | true =>
          refine ⟨[], path :: rest, machine, rfl, .nil machine, ?_, ?_⟩
          · simpa [seen] using .cancelled path rest seen
          · have still := Machine.pause_cancelled seen
            simp only [seen, if_true]
            exact ⟨fun _ => ⟨machine.pause_unmoved.files, calmNow, still.trans seen.symm⟩, by simp⟩
      | false =>
          simp only [seen, Bool.false_eq_true, if_false]
          rcases toggle_in_place_step settings path rest calm seen with
            ⟨location, code, result, after, stepped, replaced, calmAfter⟩ |
            ⟨failure, after, stepped, stopped, leaves, foreseen⟩
          · obtain ⟨processed, remaining, last, split, later, stopped, ended⟩ := ih calmAfter
            rw [stepped]
            exact ⟨path :: processed, remaining, last, by rw [split, List.cons_append],
              .cons replaced later, stopped, ended⟩
          · rw [stepped]
            refine ⟨[], path :: rest, machine, rfl, .nil machine, stopped, by simp, ?_⟩
            rintro _ ⟨⟩
            exact ⟨leaves, foreseen⟩

theorem token_ending (output : Bytes) (cancelled : Bool) :
    (if cancelled then Ending.interrupted output else .finished output).output = output ∧
      (if cancelled then Ending.interrupted output else .finished output).exitCode =
        if cancelled then 130 else 0 := by
  cases cancelled <;> exact ⟨rfl, rfl⟩

theorem closing_of_calm (output : Bytes) {machine : Machine} (calm : machine.Calm) :
    closing output machine =
      (if (arrived machine).cancelled then .interrupted output else .finished output,
        arrived machine) := by
  have paused : machine.pause = (false, arrived machine) :=
    Prod.ext (Machine.pause_calm calm).1 rfl
  rw [closing, paused]

theorem run_in_place {arguments : List Text} {environment : Environment} (input : Bytes)
    {machine : Machine} {options : Options} {settings : Settings}
    (parsed : Options.ofArguments arguments = some options) (write : options.write = true)
    (named : options.paths ≠ []) (help : options.help = false) (version : options.version = false)
    (clean : Command.holdsNull options = false)
    (loaded : (Settings.load ⟨machine.system, machine.here, environment⟩ options.config).outcome =
      .ok settings) :
    run arguments environment input machine =
      let notes := (Settings.load ⟨machine.system, machine.here, environment⟩ options.config).notes
      let toggled := toggleAll settings (options.paths.map fun path => (Path.ofText path).toText)
        { machine with notes := machine.notes ++ notes }
      let ended := match toggled.1 with
        | .error failure => (failure.ending, toggled.2)
        | .ok () => closing [] toggled.2
      (ended.1, showing (leastLevel options environment) ended.2) := by
  have agreed : conflict? options = none := by simp [conflict?, write, named]
  simp only [run, parsed, start, help, version, clean, agreed, loadAndWork, loaded, work, write,
    if_true, Bool.false_eq_true, if_false]
  split <;> simp [*]

/-- A run in place goes through its paths in order and replaces one file after the other, up to a
failure or to a path that is reached with the token cancelled. At the end the files are those of the
moment it stopped, unless a throw-away directory could not be removed: what no processed path leads to
is as it was at the beginning, and no file or directory has come or gone. The run has no output. It
exits with one after a failure, else with 130 if the token is cancelled by then, else with zero. A
failure that is told ends it with a message; a limit of time that is out of bounds or a null character
makes it crash. -/
theorem in_place_run_is_fold {arguments : List Text} {environment : Environment} (input : Bytes)
    {machine : Machine} {options : Options} {settings : Settings}
    (parsed : Options.ofArguments arguments = some options) (write : options.write = true)
    (named : options.paths ≠ []) (help : options.help = false) (version : options.version = false)
    (clean : Command.holdsNull options = false)
    (loaded : (Settings.load ⟨machine.system, machine.here, environment⟩ options.config).outcome =
      .ok settings)
    (calm : machine.Calm) :
    let notes := (Settings.load ⟨machine.system, machine.here, environment⟩ options.config).notes
    let begun : Machine := { machine with notes := machine.notes ++ notes }
    let ending := (run arguments environment input machine).1
    let last := (run arguments environment input machine).2
    ∃ processed remaining stopped outcome,
      (options.paths.map fun path => (Path.ofText path).toText) = processed ++ remaining ∧
      ReplacedAll settings processed begun stopped ∧
      Stopped settings remaining stopped outcome ∧
      (last.system = stopped.system ∨ outcome = .error (.toggle (.build .notRemoved)) ∧
        ∃ directory places, IsPlace settings stopped directory ∧
          Confined directory places stopped.system last.system) ∧
      (∀ location entry, stopped.system.find? location = some entry →
        last.system.find? location = some entry) ∧
      (∀ location,
        (∀ path ∈ processed, machine.system.resolve machine.here path ≠ .ok location) →
          stopped.system.find? location = machine.system.find? location) ∧
      Alike machine.system stopped.system ∧
      (outcome = .ok () → last.cancelled = (arrived stopped).cancelled) ∧
      ending = (match outcome with
        | .error failure => failure.ending
        | .ok () => if last.cancelled then .interrupted [] else .finished []) ∧
      ending.output = [] ∧
      ending.exitCode = match outcome with
        | .error _ => 1
        | .ok () => if last.cancelled then 130 else 0 := by
  intro notes begun ending last
  obtain ⟨processed, remaining, stopped, split, replaced, stop, ended⟩ :=
    toggle_all_trace settings (options.paths.map fun path => (Path.ofText path).toText)
      (show begun.Calm from calm)
  have ran := run_in_place input parsed write named help version clean loaded
  have untouched : ∀ location,
      (∀ path ∈ processed, machine.system.resolve machine.here path ≠ .ok location) →
        stopped.system.find? location = machine.system.find? location := fun _ => replaced.untouched
  dsimp only at ran
  generalize toggleAll settings (options.paths.map fun path => (Path.ofText path).toText) begun =
    result at stop ended ran
  obtain ⟨outcome, reached⟩ := result
  refine ⟨processed, remaining, stopped, outcome, split, replaced, stop, ?_⟩
  simp only [ending, last, ran]
  cases outcome with
  | error failure =>
      obtain ⟨leaves, foreseen⟩ := ended.failed failure rfl
      obtain ⟨silent, one⟩ := failure_ending foreseen
      refine ⟨?_, fun _ _ => leaves.kept, untouched, replaced.alike, by simp, rfl, silent, one⟩
      rcases leaves with same | ⟨rfl, left⟩
      · exact Or.inl same
      · exact Or.inr ⟨rfl, left⟩
  | ok done =>
      obtain ⟨files, calmLast, token⟩ := ended.done rfl
      have kept : (arrived reached).system = stopped.system :=
        reached.pause_unmoved.files.trans files
      rw [closing_of_calm [] calmLast]
      exact ⟨Or.inl kept, fun _ _ found => kept ▸ found, untouched, replaced.alike,
        fun _ => token, rfl, token_ending [] (arrived reached).cancelled⟩

/-- A limit of three million seconds is accepted as a setting and cannot be kept. -/
def unboundedMachine : Machine :=
  ⟨⟨[([['t', 'm', 'p']], .directory),
      ([['c']], .file (Marker.ascii "timeout: 3000000".toList)),
      ([['a']], .file (Marker.ascii ['v']))], []⟩, [], "/tmp".toList, fun _ => ['1'],
    [(['g', 'o'], .ready)], [], [], [], true, false, [], []⟩

theorem in_place_run_is_fold_unbounded :
    let result := run [['-', 'w'], ['-', 'c'], ['c'], ['a']] [] [] unboundedMachine
    result.1 = .crashed (.build (.limitTooLarge "timeout is too large")) ∧
      result.1.exitCode = 1 ∧ result.1.console = [] ∧ result.1.output = [] ∧
      result.2.system.find? [['a']] = some (.file (Marker.ascii ['v'])) := by
  intro result
  have loaded : (Settings.load ⟨unboundedMachine.system, unboundedMachine.here, []⟩
      (some ['c'])).outcome = .ok { Settings.default with timeout := some 3000000 } := by
    decide +kernel
  have calm : unboundedMachine.Calm := by decide
  obtain ⟨processed, remaining, stopped, outcome, -, -, -, -, -, -, -, -, -, silent, -⟩ :=
    @in_place_run_is_fold [['-', 'w'], ['-', 'c'], ['c'], ['a']] [] [] unboundedMachine
      ⟨true, false, false, false, false, some ['c'], [['a']]⟩ _ rfl rfl (by simp) rfl rfl rfl loaded
      calm
  have ran := @run_in_place [['-', 'w'], ['-', 'c'], ['c'], ['a']] [] [] unboundedMachine
      ⟨true, false, false, false, false, some ['c'], [['a']]⟩ _ rfl rfl (by simp) rfl rfl rfl loaded
  have crash : result.1 = .crashed (.build (.limitTooLarge "timeout is too large")) := by
    simp only [result, ran]
    rfl
  refine ⟨crash, ?_, ?_, silent, ?_⟩
  · rw [crash]
    rfl
  · rw [crash]
    rfl
  · simp only [result, ran]
    rfl

end BlankUse.Command
