import BlankUse.Proofs.ThrowAway

/-!
Builds one after the other. Each build draws a name for its throw-away directory and makes it, writes
the code into it, launches the compiler and removes the directory, and any of these may go wrong.
Wherever that happens, the files are what they were before, unless it is the removal itself; then
some of the directory may be left, and the build says that the removal failed and nothing else. So
whoever has made some builds and was told of no failed removal knows that none of them has left a
trace.
-/

namespace BlankUse.Workspace

open FileSystem Machine

/-! What the compiler's part of a build returns and records. -/

theorem finish_runs (fate : Fate) (machine : Machine) :
    (finish fate machine).2.runs = machine.runs := by
  obtain ⟨cancelled, notes, beside⟩ := machine.interrupt_beside fate.interrupts
  unfold finish
  generalize machine.interrupt fate.interrupts = result at beside
  obtain ⟨broken, after⟩ := result
  obtain rfl : after = { machine with cancelled := cancelled, notes := notes } := beside
  cases broken <;> rfl

theorem finish_ok_iff (fate : Fate) (machine : Machine) (report : Report) :
    (finish fate machine).1 = .ok report ↔ fate.interrupts ≤ machine.patience ∧
      report = ⟨fate.exitStatus == 0, outputText fate.output⟩ := by
  rw [← machine.interrupt_iff]
  unfold finish
  generalize machine.interrupt fate.interrupts = result
  obtain ⟨broken, after⟩ := result
  cases broken <;> simp [eq_comm]

theorem compile_runs (settings : Settings) (fate : Fate) (source : Location) (machine : Machine) :
    (compile settings fate source machine).2.runs = machine.runs ++
      [⟨command settings (pathOf source), settings.workdir, sourceContent machine source⟩] := by
  rcases compile_cases settings fate source machine with ⟨-, finished⟩ | ⟨-, failure, -, failed⟩
  · rw [finished, finish_runs]
    rfl
  · rw [failed]
    rfl

theorem compile_ok_iff (settings : Settings) (fate : Fate) (source : Location) (machine : Machine)
    (report : Report) :
    (compile settings fate source machine).1 = .ok report ↔
      Unhindered settings fate source machine ∧ fate.interrupts ≤ machine.patience ∧
      report = ⟨fate.exitStatus == 0, outputText fate.output⟩ := by
  rcases compile_cases settings fate source machine with
    ⟨unhindered, finished⟩ | ⟨hindered, failure, -, failed⟩
  · have patience : (launched settings source machine).patience = machine.patience := rfl
    rw [finished, finish_ok_iff, patience]
    simp [unhindered]
  · simp [failed, hindered]

theorem compile_not_removed (settings : Settings) (fate : Fate) (source : Location)
    (machine : Machine) : (compile settings fate source machine).1 ≠ .error .notRemoved := by
  rcases compile_cases settings fate source machine with
    ⟨-, finished⟩ | ⟨-, failure, hindrance, failed⟩
  · rw [finished]
    unfold finish
    split <;> simp
  · rw [failed]
    simpa using hindrance.foreseen.2

/-! The stages of a build. -/

def fillsDisk : Mishap → Bool
  | .diskFull => true
  | .cutShort _ => true
  | _ => false

def hasRoom (fate : Fate) : Bool := !fate.mishap.any fillsDisk

theorem compile_in_full (settings : Settings) (code : Bytes) {fate : Fate} (directory : Location)
    (machine : Machine) (full : hasRoom fate = false) :
    ∃ system, compileIn settings code fate directory machine =
      (.error .noSource, { machine.dropStamp with system := system }) := by
  unfold compileIn
  dsimp only
  split
  · exact ⟨machine.system, rfl⟩
  · exact ⟨_, rfl⟩
  · next unmade uncut =>
    cases found : fate.mishap with
    | none => simp [hasRoom, found] at full
    | some mishap =>
        cases mishap with
        | diskFull => exact absurd found unmade
        | cutShort written => exact absurd found (uncut written)
        | _ => simp [hasRoom, found, fillsDisk] at full

theorem compile_in_room (settings : Settings) (code : Bytes) {fate : Fate} (directory : Location)
    (machine : Machine) (room : hasRoom fate = true) :
    let source := directory ++ [sourceName machine.stamp]
    compileIn settings code fate directory machine =
      compile settings fate source
        { machine.dropStamp with system := machine.system.put source (.file code) } := by
  unfold compileIn
  dsimp only
  split
  · next unmade => simp [hasRoom, unmade, fillsDisk] at room
  · next cut => simp [hasRoom, cut, fillsDisk] at room
  · rfl

/-- A build gets to make its throw-away directory, on a machine from which the name was drawn. -/
structure Makes (settings : Settings) (directory : Location) (machine drawn : Machine) : Prop where
  going : machine.dropFate.pause.1 = false
  made : freshDirectory settings machine.nextFate attempts (begun machine) = (.ok directory, drawn)

def RemovalFails (settings : Settings) (machine : Machine) : Prop :=
  (∃ directory drawn, Makes settings directory machine drawn) ∧ machine.nextFate.removal ≠ .done

def sourceIn (directory : Location) (drawn : Machine) : Location :=
  directory ++ [sourceName drawn.stamp]

def prepared (code : Bytes) (directory : Location) (drawn : Machine) : Machine :=
  let made := drawn.system.put directory .directory
  { drawn.dropStamp with system := made.put (sourceIn directory drawn) (.file code) }

theorem prepared_source (code : Bytes) (directory : Location) (drawn : Machine) :
    (prepared code directory drawn).system.find? (sourceIn directory drawn) = some (.file code) := by
  rw [prepared, find_put _ (by simp [sourceIn]), if_pos rfl]

section

variable {settings : Settings} (code : Bytes) {machine drawn : Machine} {directory : Location}

theorem Makes.frame (makes : Makes settings directory machine drawn) :
    machine.system.isFree directory = true ∧ drawn.system = machine.system ∧
      drawn.runs = machine.runs ∧ drawn.patience = (begun machine).patience := by
  have files := (begun_unmoved machine).files
  obtain ⟨-, -, runs⟩ := begun_frame machine
  obtain ⟨outcome, stamps, fresh, -, free, -⟩ :=
    fresh_directory_cases settings machine.nextFate attempts (begun machine)
  rw [makes.made] at fresh
  cases fresh
  exact ⟨files ▸ (free directory rfl).2, files, runs, rfl⟩

theorem build_unmade_cases (unmade : ∀ directory drawn, ¬ Makes settings directory machine drawn) :
    ∃ failure, (build settings code machine).1 = .error failure ∧ failure ≠ .notRemoved ∧
      (build settings code machine).2.runs = machine.runs := by
  obtain ⟨-, -, runs⟩ := begun_frame machine
  cases going : machine.dropFate.pause.1 with
  | true =>
      rw [build_broken code going]
      exact ⟨_, rfl, by simp, runs⟩
  | false =>
      obtain ⟨outcome, stamps, fresh, -, -, foreseen⟩ :=
        fresh_directory_cases settings machine.nextFate attempts (begun machine)
      cases outcome with
      | ok directory => exact absurd ⟨going, fresh⟩ (unmade directory _)
      | error failure =>
          rw [build_unmade code going fresh]
          exact ⟨failure, rfl, (foreseen failure rfl).2.2, runs⟩

theorem Makes.build_unwritten (makes : Makes settings directory machine drawn)
    (full : hasRoom machine.nextFate = false) :
    (build settings code machine).1 = reported machine.nextFate.removal (.error .noSource) ∧
      (build settings code machine).2.runs = machine.runs := by
  rw [build_made code makes.going makes.made]
  obtain ⟨system, failed⟩ := compile_in_full settings code directory
    { drawn with system := drawn.system.put directory .directory } full
  rw [failed]
  exact ⟨rfl, makes.frame.2.2.1⟩

theorem Makes.build_written (makes : Makes settings directory machine drawn)
    (room : hasRoom machine.nextFate = true) :
    let compiled := compile settings machine.nextFate (sourceIn directory drawn)
      (prepared code directory drawn)
    (build settings code machine).1 = reported machine.nextFate.removal compiled.1 ∧
      (build settings code machine).2.runs = compiled.2.runs := by
  rw [build_made code makes.going makes.made, compile_in_room settings code directory _ room]
  exact ⟨rfl, rfl⟩

/-- A removal that fails takes the place of whatever the build has come to. -/
theorem Makes.build_reported (makes : Makes settings directory machine drawn) :
    ∃ outcome, outcome ≠ .error .notRemoved ∧
      (build settings code machine).1 = reported machine.nextFate.removal outcome := by
  cases room : hasRoom machine.nextFate with
  | false => exact ⟨.error .noSource, by simp, (makes.build_unwritten code room).1⟩
  | true => exact ⟨_, compile_not_removed _ _ _ _, (makes.build_written code room).1⟩

theorem Makes.confined (makes : Makes settings directory machine drawn) {places : List Location}
    (fails : machine.nextFate.removal = .failed places) :
    Confined directory places machine.system (build settings code machine).2.system := by
  obtain ⟨free, files, -, -⟩ := makes.frame
  obtain ⟨system, cleared, weathered⟩ := compile_in_weathered settings code machine.nextFate directory
    { drawn with system := drawn.system.put directory .directory }
  obtain ⟨cancelled, notes, runs, after⟩ := weathered.beside
  rw [remove_tree_put _ (List.prefix_refl _), files, remove_tree_of_free free] at cleared
  rw [build_made code makes.going makes.made, after, fails]
  exact .of_cleared free cleared places

end

/-! What a build returns and records. -/

theorem build_not_removed_iff (settings : Settings) (code : Bytes) (machine : Machine) :
    (build settings code machine).1 = .error .notRemoved ↔ RemovalFails settings machine := by
  by_cases makes : ∃ directory drawn, Makes settings directory machine drawn
  · obtain ⟨directory, drawn, made⟩ := makes
    obtain ⟨outcome, differs, returned⟩ := made.build_reported code
    rw [returned, RemovalFails]
    cases machine.nextFate.removal with
    | done => simp [reported, differs]
    | failed places =>
        have makes : ∃ directory drawn, Makes settings directory machine drawn :=
          ⟨directory, drawn, made⟩
        simp [reported, makes]
  · obtain ⟨failure, failed, differs, -⟩ := build_unmade_cases code
      (fun directory drawn made => makes ⟨directory, drawn, made⟩)
    rw [failed]
    simp [RemovalFails, makes, differs]

theorem build_files (settings : Settings) (code : Bytes) {machine : Machine}
    (removed : ¬ RemovalFails settings machine) :
    (build settings code machine).2.system = machine.system := by
  rw [← build_not_removed_iff settings code] at removed
  have effect := build_effect settings code machine
  cases outcome : (build settings code machine).1 with
  | ok report => exact (effect.returned report outcome).files
  | error failure =>
      rcases effect.failed failure outcome with same | ⟨rfl, -⟩
      · exact same
      · exact absurd outcome removed

theorem build_keeps (settings : Settings) (code : Bytes) {machine : Machine} {location : Location}
    {entry : Entry} (found : machine.system.find? location = some entry) :
    (build settings code machine).2.system.find? location = some entry := by
  have effect := build_effect settings code machine
  cases outcome : (build settings code machine).1 with
  | ok report => rw [(effect.returned report outcome).files, found]
  | error failure =>
      rcases effect.failed failure outcome with same | ⟨-, directory, places, -, confined⟩
      · rw [same, found]
      · exact confined.kept found

/-- The compiler is launched in a build: the directory is made, the compiler is run on a machine where
the source file holds the code, and that run is recorded. -/
structure Launches (settings : Settings) (code : Bytes) (before after : Machine)
    (directory : Location) (drawn : Machine) : Prop where
  made : Makes settings directory before drawn
  written : hasRoom before.nextFate = true
  source : (prepared code directory drawn).system.find? (sourceIn directory drawn) =
    some (.file code)
  compiled : after.runs = (compile settings before.nextFate (sourceIn directory drawn)
    (prepared code directory drawn)).2.runs
  recorded : after.runs = before.runs ++
    [⟨command settings (pathOf (sourceIn directory drawn)), settings.workdir, code⟩]

/-- The compiler is launched once, or else there was no source file to launch it on. -/
theorem build_launches (settings : Settings) (code : Bytes) (machine : Machine) :
    ((build settings code machine).2.runs = machine.runs ∧
      ((∀ directory drawn, ¬ Makes settings directory machine drawn) ∨
        hasRoom machine.nextFate = false)) ∨
    ∃ directory drawn,
      Launches settings code machine (build settings code machine).2 directory drawn := by
  by_cases makes : ∃ directory drawn, Makes settings directory machine drawn
  · obtain ⟨directory, drawn, made⟩ := makes
    cases room : hasRoom machine.nextFate with
    | false => exact Or.inl ⟨(made.build_unwritten code room).2, Or.inr rfl⟩
    | true =>
        have source := prepared_source code directory drawn
        have compiled := (made.build_written code room).2
        have runs : (prepared code directory drawn).runs = machine.runs := made.frame.2.2.1
        refine Or.inr ⟨directory, drawn, made, room, source, compiled, ?_⟩
        rw [compiled, compile_runs, sourceContent, source, runs]
  · have unmade : ∀ directory drawn, ¬ Makes settings directory machine drawn :=
      fun directory drawn made => makes ⟨directory, drawn, made⟩
    obtain ⟨failure, -, -, runs⟩ := build_unmade_cases code unmade
    exact Or.inl ⟨runs, Or.inl unmade⟩

/-- All stages of a build go well: the directory is made, the code is written into it, the compiler
runs to its end, no interrupt is one too many, and the directory is removed. -/
structure GoesWell (settings : Settings) (code : Bytes) (machine : Machine) (directory : Location)
    (drawn : Machine) : Prop where
  made : Makes settings directory machine drawn
  written : hasRoom machine.nextFate = true
  compiled : Unhindered settings machine.nextFate (sourceIn directory drawn)
    (prepared code directory drawn)
  patient : machine.nextPause + machine.nextFate.interrupts ≤ machine.patience
  removed : machine.nextFate.removal = .done

theorem build_ok_iff (settings : Settings) (code : Bytes) (machine : Machine) (report : Report) :
    (build settings code machine).1 = .ok report ↔
      (∃ directory drawn, GoesWell settings code machine directory drawn) ∧
      report = ⟨machine.nextFate.exitStatus == 0, outputText machine.nextFate.output⟩ := by
  constructor
  · intro returned
    by_cases makes : ∃ directory drawn, Makes settings directory machine drawn
    · obtain ⟨directory, drawn, made⟩ := makes
      have patience : (prepared code directory drawn).patience = (begun machine).patience :=
        made.frame.2.2.2
      have left := begun_left ((going_iff machine).mp made.going)
      cases room : hasRoom machine.nextFate with
      | false =>
          rw [(made.build_unwritten code room).1] at returned
          cases removal : machine.nextFate.removal <;> simp [removal, reported] at returned
      | true =>
          rw [(made.build_written code room).1] at returned
          cases removal : machine.nextFate.removal with
          | failed places => simp [removal, reported] at returned
          | done =>
              rw [removal] at returned
              obtain ⟨compiled, patient, read⟩ := (compile_ok_iff ..).mp returned
              exact ⟨⟨directory, drawn, made, room, compiled, by omega, removal⟩, read⟩
    · obtain ⟨failure, failed, -⟩ := build_unmade_cases code
        (fun directory drawn made => makes ⟨directory, drawn, made⟩)
      cases failed.symm.trans returned
  · rintro ⟨⟨directory, drawn, made, written, compiled, patient, removed⟩, rfl⟩
    have patience : (prepared code directory drawn).patience = (begun machine).patience :=
      made.frame.2.2.2
    have left := begun_left ((going_iff machine).mp made.going)
    rw [(made.build_written code written).1, removed]
    exact (compile_ok_iff ..).mpr ⟨compiled, by omega, rfl⟩

/-! Builds, one after the other. -/

/-- The outcomes of builds of some code with some settings each, and the machine after them. -/
def buildAll : List (Settings × Bytes) → Machine → List (Except Failure Report) × Machine
  | [], machine => ([], machine)
  | (settings, code) :: rest, machine =>
    let built := build settings code machine
    let later := buildAll rest built.2
    (built.1 :: later.1, later.2)

theorem build_all_files (calls : List (Settings × Bytes)) {machine : Machine}
    (removed : .error .notRemoved ∉ (buildAll calls machine).1) :
    (buildAll calls machine).2.system = machine.system := by
  induction calls generalizing machine with
  | nil => rfl
  | cons call rest ih =>
      obtain ⟨settings, code⟩ := call
      simp only [buildAll, List.mem_cons, not_or] at removed ⊢
      have first : ¬ RemovalFails settings machine := by
        rw [← build_not_removed_iff settings code]
        exact fun failed => removed.1 failed.symm
      rw [ih removed.2, build_files settings code first]

theorem build_all_keeps (calls : List (Settings × Bytes)) {machine : Machine} {location : Location}
    {entry : Entry} (found : machine.system.find? location = some entry) :
    (buildAll calls machine).2.system.find? location = some entry := by
  induction calls generalizing machine with
  | nil => exact found
  | cons call rest ih => exact ih (build_keeps call.1 call.2 found)

/-- In any sequence of builds, each on any settings and code and with any fate, a build leaves the files
as it has found them unless its removal fails, and so do all builds so far if none of them has said that
its removal failed. A build says so if and only if its directory was made and could not be removed,
whatever else has come of it; what is then left is at the places in the directory that the removal has
left, and whatever was there before is as it was. The compiler is launched only after a source file with
the code in it was written, and it is launched on that file. A report is returned if and only if all
stages and the removal go well, and it is a success if and only if the compiler exits with zero. -/
theorem builds_leave_no_trace (earlier : List (Settings × Bytes)) (settings : Settings)
    (code : Bytes) (start : Machine) :
    let before := (buildAll earlier start).2
    let outcome := (build settings code before).1
    let after := (build settings code before).2
    (¬ RemovalFails settings before → after.system = before.system) ∧
    (.error .notRemoved ∉ (buildAll earlier start).1 → outcome ≠ .error .notRemoved →
      after.system = start.system) ∧
    (outcome = .error .notRemoved ↔ RemovalFails settings before) ∧
    (∀ directory drawn places, Makes settings directory before drawn →
      before.nextFate.removal = .failed places →
        Confined directory places before.system after.system) ∧
    (∀ location entry, start.system.find? location = some entry →
      after.system.find? location = some entry) ∧
    ((after.runs = before.runs ∧
        ((∀ directory drawn, ¬ Makes settings directory before drawn) ∨
          hasRoom before.nextFate = false)) ∨
      ∃ directory drawn, Launches settings code before after directory drawn) ∧
    (∀ report, outcome = .ok report ↔
      (∃ directory drawn, GoesWell settings code before directory drawn) ∧
      report = ⟨before.nextFate.exitStatus == 0, outputText before.nextFate.output⟩) := by
  intro before outcome after
  have told := build_not_removed_iff settings code before
  refine ⟨build_files settings code, ?_, told, ?_, ?_, build_launches settings code before,
    build_ok_iff settings code before⟩
  · intro clean removed
    rw [← build_all_files earlier clean]
    exact build_files settings code (fun fails => removed (told.mpr fails))
  · exact fun directory drawn places makes fails => makes.confined code fails
  · exact fun location entry found => build_keeps settings code (build_all_keeps earlier found)

/-- The first build finds room for one byte only, the directory of the second one cannot be removed,
and the third one draws its name twice and fails to compile. The compilers are found by a name and by a
path. -/
def roughMachine : Machine :=
  ⟨⟨[([['t', 'm', 'p']], .directory), ([['g', 'o']], .file [])], []⟩, [], "/tmp".toList,
    fun index => if index < 5 then ['a'] else ['b'], [("go1.22".toList, .ready)],
    [([['g', 'o']], .ready)],
    [⟨0, [], 0, some (.cutShort 1), .done⟩, ⟨0, [], 0, none, .failed [[]]⟩,
      ⟨1, [0x78], 0, none, .done⟩],
    [], false, false, [], []⟩

def usingCompiler (binary : String) : Settings :=
  { Settings.default with goBinary := binary.toList }

theorem builds_leave_no_trace_rough :
    let first := buildAll [(usingCompiler "go1.22", [0x61, 0x62])] roughMachine
    let second := buildAll [(usingCompiler "go1.22", [0x61, 0x62]), (usingCompiler "go1.22", [0x63])]
      roughMachine
    let third := build (usingCompiler "/go") [0x64] second.2
    second.1 = [.error .noSource, .error .notRemoved] ∧
      first.2.system = roughMachine.system ∧
      Confined ["tmp".toList, "gousea".toList] [[]] first.2.system second.2.system ∧
      third.1 = .ok ⟨false, ['x']⟩ ∧ third.2.system = second.2.system ∧
      third.2.runs.map Run.source = [[0x63], [0x64]] := by
  intro first second third
  have opening := builds_leave_no_trace [] (usingCompiler "go1.22") [0x61, 0x62] roughMachine
  have middle := builds_leave_no_trace [(usingCompiler "go1.22", [0x61, 0x62])]
    (usingCompiler "go1.22") [0x63] roughMachine
  have last := builds_leave_no_trace
    [(usingCompiler "go1.22", [0x61, 0x62]), (usingCompiler "go1.22", [0x63])]
    (usingCompiler "/go") [0x64] roughMachine
  have full : (build (usingCompiler "go1.22") [0x61, 0x62] roughMachine).1 = .error .noSource := rfl
  have makes : Makes (usingCompiler "go1.22") ["tmp".toList, "gousea".toList] first.2
      (begun first.2).dropStamp := ⟨rfl, rfl⟩
  have compiled : third.1 = .ok ⟨false, ['x']⟩ := by decide +kernel
  refine ⟨by decide +kernel, ?_, ?_, compiled, ?_, by decide +kernel⟩
  · apply opening.2.1
    · simp [buildAll]
    · show (build (usingCompiler "go1.22") [0x61, 0x62] roughMachine).1 ≠ _
      simp [full]
  · exact middle.2.2.2.1 _ _ _ makes rfl
  · apply last.1
    rw [← last.2.2.1]
    show third.1 ≠ _
    simp [compiled]

end BlankUse.Workspace
