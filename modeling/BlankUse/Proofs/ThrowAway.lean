import BlankUse.Workspace
import BlankUse.Proofs.Files

/-!
What a build leaves behind on a machine. The throw-away directory is put where nothing was and is
removed with all that is in it, so the files are what they were before, whatever the build met. If it
is the removal that fails, the build says so, and what is left lies in the directory. What else a build
can fail with is listed, and a null character is traced to the text that holds it. The first interrupt
is only a request to cancel; if there are no more of them, no build ends in one. What builds and notes
keep, a toggle keeps.
-/

namespace BlankUse

open FileSystem

namespace Machine

/-- How many interrupts a machine can take before one of them ends the work. -/
def patience (machine : Machine) : Nat := if machine.heeding && !machine.cancelled then 1 else 0

def total : List Nat → Nat
  | [] => 0
  | count :: rest => count + total rest

def interruptsAhead (machine : Machine) : Nat :=
  total machine.pauses + total (machine.fates.map Fate.interrupts)

/-- The machine is not interrupted more often than it can take. -/
def Calm (machine : Machine) : Prop := machine.interruptsAhead ≤ machine.patience

instance (machine : Machine) : Decidable machine.Calm :=
  inferInstanceAs (Decidable (machine.interruptsAhead ≤ machine.patience))

theorem pauses_next (machine : Machine) :
    machine.nextPause + total machine.dropPause.pauses = total machine.pauses := by
  unfold nextPause dropPause
  cases machine.pauses with
  | nil => rfl
  | cons count rest => rfl

theorem interrupts_next (machine : Machine) :
    machine.nextFate.interrupts + total (machine.dropFate.fates.map Fate.interrupts) =
      total (machine.fates.map Fate.interrupts) := by
  unfold nextFate dropFate
  cases machine.fates with
  | nil => rfl
  | cons fate rest => rfl

theorem patience_le_one (machine : Machine) : machine.patience ≤ 1 := by
  unfold patience
  split <;> simp

theorem interrupt_cancelled {machine : Machine} (cancelled : machine.cancelled = true)
    (count : Nat) : (machine.interrupt count).2 = machine := by
  cases count with
  | zero => rfl
  | succ count => simp [interrupt, cancelled]

theorem interrupt_beside (count : Nat) (machine : Machine) :
    ∃ cancelled notes, (machine.interrupt count).2 =
      { machine with cancelled := cancelled, notes := notes } := by
  induction count generalizing machine with
  | zero => exact ⟨_, _, rfl⟩
  | succ count ih =>
      rw [interrupt]
      split
      · obtain ⟨cancelled, notes, after⟩ := ih machine.requestCancel
        exact ⟨cancelled, notes, after⟩
      · exact ⟨_, _, rfl⟩

/-- Interrupts end the work if and only if there are more of them than a machine can take. -/
theorem interrupt_iff (count : Nat) (machine : Machine) :
    (machine.interrupt count).1 = false ↔ count ≤ machine.patience := by
  unfold patience
  match count with
  | 0 => simp [interrupt]
  | 1 =>
      rw [interrupt]
      split <;> simp [interrupt]
  | count + 2 =>
      -- The first interrupt cancels, so the second one is not taken any more.
      rw [interrupt]
      split <;> simp [interrupt, requestCancel]

theorem interrupt_left {count : Nat} {machine : Machine} (few : count ≤ machine.patience) :
    (machine.interrupt count).2.patience + count = machine.patience := by
  have most := machine.patience_le_one
  match count, few with
  | 0, _ => rfl
  | 1, few =>
      have heeded : (machine.heeding && !machine.cancelled) = true := by
        by_contra deaf
        rw [patience, if_neg deaf] at few
        cases few
      simp [interrupt, patience, requestCancel, heeded]
  | count + 2, few => omega

theorem interrupt_patience (count : Nat) (machine : Machine) :
    machine.patience ≤ (machine.interrupt count).2.patience + count := by
  by_cases few : count ≤ machine.patience
  · exact Nat.le_of_eq (interrupt_left few).symm
  · omega

theorem pause_beside (machine : Machine) :
    ∃ cancelled notes, machine.pause.2 =
      { machine.dropPause with cancelled := cancelled, notes := notes } :=
  interrupt_beside _ _

/-- The names that are still to be drawn are among those of an earlier machine. -/
def DrawsFrom (before after : Machine) : Prop :=
  ∀ index, ∃ earlier, after.stamps index = before.stamps earlier

theorem DrawsFrom.refl (machine : Machine) : DrawsFrom machine machine := fun index => ⟨index, rfl⟩

theorem DrawsFrom.trans {first second third : Machine} (former : DrawsFrom first second)
    (latter : DrawsFrom second third) : DrawsFrom first third := by
  intro index
  obtain ⟨middle, drawn⟩ := latter index
  obtain ⟨earlier, before⟩ := former middle
  exact ⟨earlier, drawn.trans before⟩

theorem drop_stamp_draws (machine : Machine) : DrawsFrom machine machine.dropStamp :=
  fun index => ⟨index + 1, rfl⟩

structure Unmoved (before after : Machine) : Prop where
  files : after.system = before.system
  here : after.here = before.here
  temp : after.temp = before.temp
  names : DrawsFrom before after

theorem Unmoved.trans {first second third : Machine} (former : Unmoved first second)
    (latter : Unmoved second third) : Unmoved first third :=
  ⟨latter.files.trans former.files, latter.here.trans former.here, latter.temp.trans former.temp,
    former.names.trans latter.names⟩

theorem pause_unmoved (machine : Machine) : Unmoved machine machine.pause.2 := by
  obtain ⟨cancelled, notes, after⟩ := machine.pause_beside
  rw [after]
  exact ⟨rfl, rfl, rfl, .refl machine⟩

theorem pause_iff (machine : Machine) :
    machine.pause.1 = false ↔ machine.nextPause ≤ machine.patience :=
  machine.dropPause.interrupt_iff machine.nextPause

theorem pause_left {machine : Machine} (few : machine.nextPause ≤ machine.patience) :
    machine.pause.2.patience + machine.nextPause = machine.patience :=
  @interrupt_left _ machine.dropPause few

theorem pause_patience (machine : Machine) :
    machine.patience ≤ machine.pause.2.patience + machine.nextPause :=
  machine.dropPause.interrupt_patience machine.nextPause

theorem pause_cancelled {machine : Machine} (cancelled : machine.cancelled = true) :
    machine.pause.2.cancelled = true := by
  have unchanged : machine.pause.2 = machine.dropPause :=
    @interrupt_cancelled machine.dropPause cancelled _
  rw [unchanged]
  exact cancelled

theorem pause_calm {machine : Machine} (calm : machine.Calm) :
    machine.pause.1 = false ∧ machine.pause.2.Calm := by
  have next := machine.pauses_next
  obtain ⟨cancelled, notes, after⟩ := machine.pause_beside
  have ahead : machine.pause.2.interruptsAhead =
      total machine.dropPause.pauses + total (machine.fates.map Fate.interrupts) := by
    rw [after]
    rfl
  unfold Calm interruptsAhead at calm
  have few : machine.nextPause ≤ machine.patience := by omega
  have left := pause_left few
  refine ⟨machine.pause_iff.mpr few, ?_⟩
  unfold Calm
  omega

end Machine

namespace Workspace

open Machine

/-! What the compiler's part of a build does. -/

inductive Hindrance (settings : Settings) (source : Location) : Failure → Prop
  | late : Hindrance settings source (timeOut settings.timeout)
  | null (held : holdsNull (command settings (pathOf source)) settings.workdir = true) :
      Hindrance settings source .nullCharacter
  | unstarted (error : SystemError) : Hindrance settings source (startFailure settings error)
  | unbounded {reason : String} (flawed : settings.timeout.bind limitFlaw = some reason) :
      Hindrance settings source (.limitTooLarge reason)

theorem Hindrance.foreseen {settings : Settings} {source : Location} {failure : Failure}
    (hindrance : Hindrance settings source failure) :
    failure ≠ .interrupted ∧ failure ≠ .notRemoved := by
  cases hindrance with
  | late =>
      unfold timeOut
      split <;> simp
  | null => simp
  | unstarted error =>
      unfold startFailure
      split
      · simp
      · split <;> simp
  | unbounded flawed => simp

/-- What may have become of a machine on which a compiler met a fate: its token, its notes and its runs
have changed, and it was interrupted no more than the fate says. -/
structure Weathered (fate : Fate) (before : Machine) (outcome : Except Failure Report)
    (after : Machine) : Prop where
  beside : ∃ cancelled notes runs,
    after = { before with cancelled := cancelled, notes := notes, runs := runs }
  patience : before.patience ≤ after.patience + fate.interrupts
  unbroken : fate.interrupts ≤ before.patience → outcome ≠ .error .interrupted

theorem Weathered.of_failure {fate : Fate} (before : Machine) {failure : Failure}
    (foreseen : failure ≠ .interrupted) (notes : List Note) (runs : List Run) :
    Weathered fate before (.error failure) { before with notes := notes, runs := runs } where
  beside := ⟨_, _, _, rfl⟩
  patience := Nat.le_add_right _ _
  unbroken := fun _ same => foreseen (Except.error.inj same)

theorem finish_weathered (fate : Fate) (machine : Machine) :
    Weathered fate machine (finish fate machine).1 (finish fate machine).2 := by
  have unbroken := (machine.interrupt_iff fate.interrupts).mpr
  have patience := machine.interrupt_patience fate.interrupts
  obtain ⟨cancelled, notes, beside⟩ := machine.interrupt_beside fate.interrupts
  unfold finish
  generalize machine.interrupt fate.interrupts = result at unbroken patience beside
  obtain ⟨broken, after⟩ := result
  cases broken with
  | true =>
      refine ⟨⟨cancelled, notes, _, beside⟩, patience, ?_⟩
      intro few
      cases unbroken few
  | false =>
      obtain rfl : after = { machine with cancelled := cancelled, notes := notes } := beside
      refine ⟨⟨_, _, _, rfl⟩, patience, ?_⟩
      rintro _ ⟨⟩

structure Unhindered (settings : Settings) (fate : Fate) (source : Location) (machine : Machine) :
    Prop where
  inTime : fate.mishap ≠ some .timeout
  clean : holdsNull (command settings (pathOf source)) settings.workdir = false
  starts : startError settings fate machine = none
  bounded : settings.timeout.bind limitFlaw = none

def launched (settings : Settings) (source : Location) (machine : Machine) : Machine :=
  let words := command settings (pathOf source)
  (machine.note (runNote words)).record ⟨words, settings.workdir, sourceContent machine source⟩

/-- A compiler that is launched runs to its end, or it is kept from that. -/
theorem compile_cases (settings : Settings) (fate : Fate) (source : Location) (machine : Machine) :
    (Unhindered settings fate source machine ∧
      compile settings fate source machine = finish fate (launched settings source machine)) ∨
    (¬ Unhindered settings fate source machine ∧
      ∃ failure, Hindrance settings source failure ∧ compile settings fate source machine =
        (.error failure, launched settings source machine)) := by
  unfold compile
  dsimp only
  split
  · next late => exact Or.inr ⟨fun unhindered => unhindered.inTime late, _, .late, rfl⟩
  · next inTime =>
    split
    · next null =>
      refine Or.inr ⟨fun unhindered => ?_, _, .null null, rfl⟩
      rw [unhindered.clean] at null
      cases null
    · next clean =>
      split
      · next error failed =>
        refine Or.inr ⟨fun unhindered => ?_, _, .unstarted error, rfl⟩
        cases unhindered.starts.symm.trans failed
      · next reason _ flawed =>
        refine Or.inr ⟨fun unhindered => ?_, _, .unbounded flawed, rfl⟩
        cases unhindered.bounded.symm.trans flawed
      · next starts bounded =>
        exact Or.inl ⟨⟨inTime, by simpa using clean, starts, bounded⟩, rfl⟩

theorem compile_weathered (settings : Settings) (fate : Fate) (source : Location)
    (machine : Machine) :
    Weathered fate machine (compile settings fate source machine).1
      (compile settings fate source machine).2 := by
  rcases compile_cases settings fate source machine with
    ⟨-, finished⟩ | ⟨-, failure, hindrance, failed⟩
  · rw [finished]
    obtain ⟨⟨cancelled, notes, runs, beside⟩, patience, unbroken⟩ :=
      finish_weathered fate (launched settings source machine)
    exact ⟨⟨cancelled, notes, runs, beside⟩, patience, unbroken⟩
  · rw [failed]
    exact .of_failure machine hindrance.foreseen.1 _ _

theorem compile_in_weathered (settings : Settings) (code : Bytes) (fate : Fate)
    (directory : Location) (machine : Machine) :
    ∃ system, system.removeTree directory [] = machine.system.removeTree directory [] ∧
      Weathered fate { machine.dropStamp with system := system }
        (compileIn settings code fate directory machine).1
        (compileIn settings code fate directory machine).2 := by
  unfold compileIn
  dsimp only
  split
  · exact ⟨machine.system, rfl, .of_failure machine.dropStamp (by simp) _ _⟩
  · exact ⟨_, remove_tree_put _ (List.prefix_append _ _) _, .of_failure _ (by simp) _ _⟩
  · exact ⟨_, remove_tree_put _ (List.prefix_append _ _) _, compile_weathered _ _ _ _⟩

/-! What a build can fail with. -/

/-- The texts that the command and the paths of a build are made of. -/
inductive Given (settings : Settings) (machine : Machine) : Text → Prop
  | binary : Given settings machine settings.goBinary
  | flag {word : Text} (chosen : word ∈ settings.buildFlags) : Given settings machine word
  | tempDir {path : Text} (chosen : settings.tempDir = some path) : Given settings machine path
  | workdir {path : Text} (chosen : settings.workdir = some path) : Given settings machine path
  | temp : Given settings machine machine.temp
  | here {name : Text} (above : name ∈ machine.here) : Given settings machine name
  | drawn (index : Nat) : Given settings machine (machine.stamps index)

def HoldsNull (settings : Settings) (machine : Machine) : Prop :=
  ∃ text, Given settings machine text ∧ Path.hasNull text = true

inductive Fails (settings : Settings) (machine : Machine) : Failure → Prop
  | unmade (obstacle : Obstacle) : Fails settings machine (.noDirectory obstacle)
  | unwritten : Fails settings machine .noSource
  | late : Fails settings machine (timeOut settings.timeout)
  | null (held : HoldsNull settings machine) : Fails settings machine .nullCharacter
  | unstarted (error : SystemError) : Fails settings machine (startFailure settings error)
  | unbounded {reason : String} (flawed : settings.timeout.bind limitFlaw = some reason) :
      Fails settings machine (.limitTooLarge reason)
  | interrupted : Fails settings machine .interrupted
  | unremoved : Fails settings machine .notRemoved

section

variable {settings : Settings} {start machine : Machine} {failure : Failure}

theorem HoldsNull.earlier (held : HoldsNull settings machine) (here : machine.here = start.here)
    (temp : machine.temp = start.temp) (names : DrawsFrom start machine) :
    HoldsNull settings start := by
  obtain ⟨text, given, null⟩ := held
  refine ⟨text, ?_, null⟩
  cases given with
  | binary => exact .binary
  | flag chosen => exact .flag chosen
  | tempDir chosen => exact .tempDir chosen
  | workdir chosen => exact .workdir chosen
  | temp => exact temp ▸ .temp
  | here above => exact .here (here ▸ above)
  | drawn index =>
      obtain ⟨earlier, same⟩ := names index
      exact same ▸ .drawn earlier

theorem Fails.earlier (fails : Fails settings machine failure) (here : machine.here = start.here)
    (temp : machine.temp = start.temp) (names : DrawsFrom start machine) :
    Fails settings start failure := by
  cases fails with
  | unmade obstacle => exact .unmade obstacle
  | unwritten => exact .unwritten
  | late => exact .late
  | null held => exact .null (held.earlier here temp names)
  | unstarted error => exact .unstarted error
  | unbounded flawed => exact .unbounded flawed
  | interrupted => exact .interrupted
  | unremoved => exact .unremoved

theorem Hindrance.fails {source : Location} (hindrance : Hindrance settings source failure)
    (sound : Path.hasNull (pathOf source) = true → HoldsNull settings machine) :
    Fails settings machine failure := by
  cases hindrance with
  | late => exact .late
  | unstarted error => exact .unstarted error
  | unbounded flawed => exact .unbounded flawed
  | null held =>
      refine .null ?_
      rcases Bool.or_eq_true_iff.mp held with spoken | placed
      · obtain ⟨word, member, null⟩ := List.any_eq_true.mp spoken
        simp only [command, List.mem_append, List.mem_cons, List.not_mem_nil, or_false] at member
        rcases member with ((rfl | rfl | rfl | rfl) | chosen) | rfl
        · exact ⟨_, .binary, null⟩
        · cases null
        · cases null
        · cases null
        · exact ⟨word, .flag chosen, null⟩
        · exact sound null
      · cases chosen : settings.workdir with
        | none => simp [chosen] at placed
        | some path => exact ⟨path, .workdir chosen, by simpa [chosen] using placed⟩

theorem directory_null
    (held : Path.hasNull (Path.below (settings.tempDir.getD machine.temp)
      (directoryName machine.stamp)) = true) : HoldsNull settings machine := by
  rcases Path.has_null_below held with above | own
  · cases chosen : settings.tempDir with
    | none => exact ⟨_, .temp, by simpa [chosen] using above⟩
    | some path => exact ⟨path, .tempDir chosen, by simpa [chosen] using above⟩
  · rcases (Path.has_null_append _ _).mp own with fixed | drawn
    · cases fixed
    · exact ⟨_, .drawn 0, drawn⟩

end

/-! The stages of a build. -/

/-- A place for a throw-away directory: a temporary name leads there. -/
def IsPlace (settings : Settings) (machine : Machine) (directory : Location) : Prop :=
  ∃ stamp,
    let path := Path.below (settings.tempDir.getD machine.temp) (directoryName stamp)
    Path.hasNull path = false ∧ machine.system.resolveNew machine.here path = .ok directory

theorem IsPlace.source_null {settings : Settings} {machine : Machine} {directory : Location}
    (place : IsPlace settings machine directory) {index : Nat}
    (held : Path.hasNull (pathOf (directory ++ [sourceName (machine.stamps index)])) = true) :
    HoldsNull settings machine := by
  obtain ⟨stamp, clean, led⟩ := place
  have joined : Path.hasNull (Path.joinNames (directory ++ [sourceName (machine.stamps index)])) =
      true := by
    simpa [pathOf, Path.has_null_iff] using held
  obtain ⟨name, inside, null⟩ := Path.has_null_join joined
  rcases List.mem_append.mp inside with above | own
  · -- The path to the directory was looked at before, so only a name above the start is left.
    rcases List.mem_append.mp (resolve_new_names led above) with outer | piece
    · exact ⟨name, .here outer, null⟩
    · rw [Path.has_null_of_piece piece null] at clean
      cases clean
  · obtain rfl := List.mem_singleton.mp own
    rcases (Path.has_null_append _ _).mp null with front | ending
    · rcases (Path.has_null_append _ _).mp front with fixed | drawn
      · cases fixed
      · exact ⟨_, .drawn index, drawn⟩
    · cases ending

/-- Names are drawn until one of them is free or something else is in the way. -/
theorem fresh_directory_cases (settings : Settings) (fate : Fate) (tries : Nat)
    (machine : Machine) :
    ∃ outcome stamps, freshDirectory settings fate tries machine =
        (outcome, { machine with stamps := stamps }) ∧
      DrawsFrom machine { machine with stamps := stamps } ∧
      (∀ directory, outcome = .ok directory → IsPlace settings machine directory ∧
        machine.system.isFree directory = true) ∧
      (∀ failure, outcome = .error failure → Fails settings machine failure ∧
        failure ≠ .interrupted ∧ failure ≠ .notRemoved) := by
  induction tries generalizing machine with
  | zero => exact ⟨_, machine.stamps, rfl, .refl machine, by simp, by simp [Fails.unmade]⟩
  | succ tries ih =>
      have shifted := machine.drop_stamp_draws
      rw [freshDirectory]
      split
      · next held =>
        have null : Fails settings machine .nullCharacter := .null (directory_null held)
        exact ⟨_, _, rfl, shifted, by simp, by simp [null]⟩
      · next clean =>
        split
        · exact ⟨_, _, rfl, shifted, by simp, by simp [Fails.unmade]⟩
        · next led =>
          split
          · next free =>
            split
            · exact ⟨_, _, rfl, shifted, by simp, by simp [Fails.unmade]⟩
            · refine ⟨_, _, rfl, shifted, ?_, by simp⟩
              rintro directory ⟨⟩
              exact ⟨⟨machine.stamp, by simpa using clean, led⟩, free⟩
          · obtain ⟨outcome, stamps, drawn, names, free, foreseen⟩ := ih machine.dropStamp
            refine ⟨outcome, stamps, drawn, shifted.trans names, free, ?_⟩
            intro failure failed
            obtain ⟨fails, rest⟩ := foreseen failure failed
            exact ⟨fails.earlier rfl rfl shifted, rest⟩

def begun (machine : Machine) : Machine := machine.dropFate.pause.2

def reported (removal : Removal) (outcome : Except Failure Report) : Except Failure Report :=
  match removal with
  | .done => outcome
  | .failed _ => .error .notRemoved

section

variable {settings : Settings} (code : Bytes) {machine drawn : Machine}

theorem build_broken (broken : machine.dropFate.pause.1 = true) :
    build settings code machine = (.error .interrupted, begun machine) := by
  have paused : machine.dropFate.pause = (true, begun machine) := Prod.ext broken rfl
  simp only [build, paused]

theorem build_unmade {failure : Failure} (going : machine.dropFate.pause.1 = false)
    (failed : freshDirectory settings machine.nextFate attempts (begun machine) =
      (.error failure, drawn)) :
    build settings code machine = (.error failure, drawn) := by
  have paused : machine.dropFate.pause = (false, begun machine) := Prod.ext going rfl
  simp only [build, paused, failed]

theorem build_made {directory : Location} (going : machine.dropFate.pause.1 = false)
    (made : freshDirectory settings machine.nextFate attempts (begun machine) =
      (.ok directory, drawn)) :
    let compiled := compileIn settings code machine.nextFate directory
      { drawn with system := drawn.system.put directory .directory }
    build settings code machine =
      (reported machine.nextFate.removal compiled.1,
        remove directory machine.nextFate.removal compiled.2) := by
  have paused : machine.dropFate.pause = (false, begun machine) := Prod.ext going rfl
  simp only [build, paused, made]
  rfl

end

/-! What a build leaves. -/

/-- The files are as they were, unless it is the removal of a throw-away directory that has failed. -/
def Leaves (settings : Settings) (before : Machine) (failure : Failure) (after : FileSystem) : Prop :=
  after = before.system ∨ failure = .notRemoved ∧
    ∃ directory places, IsPlace settings before directory ∧
      Confined directory places before.system after

theorem Leaves.of_unmoved {settings : Settings} {start before : Machine} {failure : Failure}
    {after : FileSystem} (unmoved : Unmoved start before)
    (leaves : Leaves settings before failure after) : Leaves settings start failure after := by
  obtain ⟨files, here, temp, -⟩ := unmoved
  unfold Leaves IsPlace at leaves ⊢
  rwa [files, here, temp] at leaves

/-- What a build has done to a machine, beside the token, the notes, the runs and the names. -/
structure Effect (settings : Settings) (before : Machine) (outcome : Except Failure Report)
    (after : Machine) : Prop where
  fates : after.fates = before.fates.drop 1
  pauses : after.pauses = before.pauses.drop 1
  returned : ∀ report, outcome = .ok report → Unmoved before after
  failed : ∀ failure, outcome = .error failure → Leaves settings before failure after.system
  patience : before.patience ≤ after.patience + before.nextPause + before.nextFate.interrupts
  unbroken : before.nextPause + before.nextFate.interrupts ≤ before.patience →
    outcome ≠ .error .interrupted

theorem begun_unmoved (machine : Machine) : Unmoved machine (begun machine) := by
  obtain ⟨files, here, temp, names⟩ := machine.dropFate.pause_unmoved
  exact ⟨files, here, temp, names⟩

theorem begun_frame (machine : Machine) :
    (begun machine).fates = machine.fates.drop 1 ∧
      (begun machine).pauses = machine.pauses.drop 1 ∧ (begun machine).runs = machine.runs := by
  obtain ⟨cancelled, notes, began⟩ := machine.dropFate.pause_beside
  have same : begun machine =
      { machine.dropFate.dropPause with cancelled := cancelled, notes := notes } := began
  rw [same]
  exact ⟨rfl, rfl, rfl⟩

theorem begun_patience (machine : Machine) :
    machine.patience ≤ (begun machine).patience + machine.nextPause :=
  machine.dropFate.pause_patience

theorem begun_left {machine : Machine} (few : machine.nextPause ≤ machine.patience) :
    (begun machine).patience + machine.nextPause = machine.patience :=
  @pause_left machine.dropFate few

theorem going_iff (machine : Machine) :
    machine.dropFate.pause.1 = false ↔ machine.nextPause ≤ machine.patience :=
  machine.dropFate.pause_iff

theorem Effect.of_begun {settings : Settings} {before : Machine} (stamps : Nat → Text)
    {failure : Failure} (foreseen : before.nextPause ≤ before.patience → failure ≠ .interrupted) :
    Effect settings before (.error failure) { begun before with stamps := stamps } := by
  have patient := begun_patience before
  obtain ⟨fates, pauses, -⟩ := begun_frame before
  refine ⟨fates, pauses, by simp, fun _ _ => Or.inl (begun_unmoved before).files, ?_, ?_⟩
  · exact Nat.le_trans patient (Nat.le_add_right _ _)
  · intro few same
    exact foreseen (by omega) (Except.error.inj same)

theorem Effect.of_compiled {settings : Settings} {before : Machine} {stamps : Nat → Text}
    (names : DrawsFrom before { before with stamps := stamps })
    {directory : Location} (place : IsPlace settings before directory)
    (free : before.system.isFree directory = true) {system : FileSystem}
    (cleared : system.removeTree directory [] = before.system)
    {outcome : Except Failure Report} {after : Machine}
    (weathered : Weathered before.nextFate
      { begun before with system := system, stamps := stamps } outcome after) :
    Effect settings before (reported before.nextFate.removal outcome)
      (remove directory before.nextFate.removal after) := by
  have patient := begun_patience before
  have left := @begun_left before
  have patience : (begun before).patience ≤ after.patience + before.nextFate.interrupts :=
    weathered.patience
  have removed : (remove directory before.nextFate.removal after).patience = after.patience := rfl
  have unbroken : before.nextFate.interrupts ≤ (begun before).patience →
      outcome ≠ .error .interrupted := weathered.unbroken
  obtain ⟨fates, pauses, -⟩ := begun_frame before
  obtain ⟨-, here, temp, -⟩ := begun_unmoved before
  obtain ⟨cancelled, notes, runs, rfl⟩ := weathered.beside
  refine ⟨fates, pauses, ?_, ?_, by omega, ?_⟩
  · intro report returned
    cases removal : before.nextFate.removal with
    | done => exact ⟨cleared, here, temp, names⟩
    | failed places =>
        rw [removal] at returned
        cases returned
  · intro failure failed
    cases removal : before.nextFate.removal with
    | done => exact Or.inl cleared
    | failed places =>
        rw [removal] at failed
        cases failed
        exact Or.inr ⟨rfl, directory, places, place, .of_cleared free cleared places⟩
  · intro few
    have rest := left (by omega)
    cases before.nextFate.removal with
    | done => exact unbroken (by omega)
    | failed places => simp [reported]

theorem build_effect (settings : Settings) (code : Bytes) (before : Machine) :
    Effect settings before (build settings code before).1 (build settings code before).2 := by
  cases broken : before.dropFate.pause.1 with
  | true =>
      rw [build_broken code broken]
      refine .of_begun (begun before).stamps fun few => ?_
      rw [(going_iff before).mpr few] at broken
      cases broken
  | false =>
      obtain ⟨outcome, stamps, drawn, names, free, foreseen⟩ :=
        fresh_directory_cases settings before.nextFate attempts (begun before)
      cases outcome with
      | error failure =>
          rw [build_unmade code broken drawn]
          exact .of_begun stamps fun _ => (foreseen failure rfl).2.1
      | ok directory =>
          obtain ⟨place, unused⟩ := free directory rfl
          obtain ⟨system, cleared, weathered⟩ := compile_in_weathered settings code before.nextFate
            directory { begun before with
              stamps := stamps, system := (begun before).system.put directory .directory }
          obtain ⟨files, here, temp, kept⟩ := begun_unmoved before
          -- Nothing was in the directory, so removing it brings the files back.
          rw [remove_tree_put _ (List.prefix_refl _), remove_tree_of_free unused, files] at cleared
          rw [files] at unused
          rw [IsPlace, files, here, temp] at place
          have later : DrawsFrom before { before with stamps := fun index => stamps (index + 1) } :=
            kept.trans (names.trans (drop_stamp_draws { begun before with stamps := stamps }))
          rw [build_made code broken drawn]
          exact .of_compiled later place unused cleared weathered

theorem compile_in_fails {settings : Settings} {code : Bytes} {fate : Fate} {directory : Location}
    {start machine : Machine} {failure : Failure}
    (sound : Path.hasNull (pathOf (directory ++ [sourceName machine.stamp])) = true →
      HoldsNull settings start)
    (failed : (compileIn settings code fate directory machine).1 = .error failure) :
    Fails settings start failure := by
  unfold compileIn at failed
  dsimp only at failed
  split at failed
  · cases failed
    exact .unwritten
  · cases failed
    exact .unwritten
  · rcases compile_cases settings fate (directory ++ [sourceName machine.stamp])
      { machine.dropStamp with system :=
          machine.dropStamp.system.put (directory ++ [sourceName machine.stamp]) (.file code) } with
      ⟨-, finished⟩ | ⟨-, cause, hindrance, hindered⟩
    · rw [finished] at failed
      unfold finish at failed
      split at failed
      · cases failed
        exact .interrupted
      · cases failed
    · rw [hindered] at failed
      cases failed
      exact hindrance.fails sound

theorem build_fails {settings : Settings} {code : Bytes} {before : Machine} {failure : Failure}
    (failed : (build settings code before).1 = .error failure) :
    Fails settings before failure := by
  cases broken : before.dropFate.pause.1 with
  | true =>
      rw [build_broken code broken] at failed
      cases failed
      exact .interrupted
  | false =>
      obtain ⟨-, here, temp, kept⟩ := begun_unmoved before
      obtain ⟨outcome, stamps, drawn, names, free, foreseen⟩ :=
        fresh_directory_cases settings before.nextFate attempts (begun before)
      cases outcome with
      | error cause =>
          rw [build_unmade code broken drawn] at failed
          cases failed
          exact (foreseen failure rfl).1.earlier here temp kept
      | ok directory =>
          rw [build_made code broken drawn] at failed
          cases removal : before.nextFate.removal with
          | failed places =>
              rw [removal] at failed
              cases failed
              exact .unremoved
          | done =>
              rw [removal] at failed
              refine (compile_in_fails ?_ failed).earlier here temp kept
              intro held
              obtain ⟨index, same⟩ := names 0
              have drawn : Path.hasNull (pathOf
                  (directory ++ [sourceName ((begun before).stamps index)])) = true := same ▸ held
              exact (free directory rfl).1.source_null drawn

/-- A calm machine is calm after a build, and no interrupt ends it. -/
theorem build_calm (settings : Settings) (code : Bytes) {before : Machine} (calm : before.Calm) :
    (build settings code before).2.Calm ∧ (build settings code before).1 ≠ .error .interrupted := by
  have effect := build_effect settings code before
  have fates := before.interrupts_next
  have pauses := before.pauses_next
  have patience := effect.patience
  unfold Calm interruptsAhead at calm ⊢
  have ahead : total (build settings code before).2.pauses = total before.dropPause.pauses ∧
      total ((build settings code before).2.fates.map Fate.interrupts) =
        total (before.dropFate.fates.map Fate.interrupts) := by
    rw [effect.pauses, effect.fates]
    exact ⟨rfl, rfl⟩
  exact ⟨by omega, effect.unbroken (by omega)⟩

end Workspace

namespace Toggle

variable {State Cause : Type}

/-- What is kept by every build that returns a report and by every note, and what holds after a build
that fails. -/
structure Keeps (tools : Toolchain State Cause) (kept : State → Prop) (ended : Cause → State → Prop) :
    Prop where
  built : ∀ code state report after, kept state → tools.build code state = (.ok report, after) →
    kept after
  failed : ∀ code state cause after, kept state → tools.build code state = (.error cause, after) →
    ended cause after
  note : ∀ entry state, kept state → kept (tools.note entry state)

def Holds (kept : State → Prop) (ended : Cause → State → Prop) {Result : Type}
    (outcome : Except (Failure Cause) Result) (after : State) : Prop :=
  match outcome with
  | .error (.build cause) => ended cause after
  | _ => kept after

section

variable {tools : Toolchain State Cause} {kept : State → Prop} {ended : Cause → State → Prop}
  {state : State}

theorem Keeps.extract (keeps : Keeps tools kept ended) (holds : kept state) (kind : Kind)
    (code : Bytes) :
    Holds kept ended (extract tools kind code state).1 (Toggle.extract tools kind code state).2 := by
  unfold Toggle.extract
  split
  · exact keeps.note _ _ holds
  · split
    · next cause after failed => exact keeps.failed _ _ _ _ holds failed
    · next report after returned =>
      have built := keeps.built _ _ _ _ holds returned
      split
      · exact keeps.note _ _ built
      · split
        · exact built
        · exact keeps.note _ _ built

theorem Keeps.add_usages (keeps : Keeps tools kept ended) (holds : kept state) (marker : Marker)
    (hidden : List Int) (lines : List Bytes) :
    Holds kept ended (addUsages tools marker hidden lines state).1
      (addUsages tools marker hidden lines state).2 := by
  have extracted := keeps.extract holds .unused (LineBuffer.toCode lines)
  unfold addUsages
  generalize Toggle.extract tools .unused (LineBuffer.toCode lines) state = result at extracted
  obtain ⟨outcome, after⟩ := result
  cases outcome with
  | error failure => cases failure <;> exact extracted
  | ok unused =>
      dsimp only
      split
      · exact extracted
      · split
        · exact extracted
        · unfold noteAdded
          split
          · exact extracted
          · exact keeps.note _ _ extracted

theorem Keeps.run (keeps : Keeps tools kept ended) (holds : kept state) (marker : Marker)
    (code : Bytes) :
    Holds kept ended (run tools marker code state).1 (Toggle.run tools marker code state).2 := by
  have extracted := keeps.extract holds .missingProvider code
  unfold Toggle.run
  split
  · exact keeps.note _ _ holds
  · unfold add
    generalize Toggle.extract tools .missingProvider code state = result at extracted
    obtain ⟨outcome, after⟩ := result
    cases outcome with
    | error failure => cases failure <;> exact extracted
    | ok missing =>
        dsimp only
        split
        · exact extracted
        · refine keeps.add_usages ?_ marker _ _
          unfold noteCommented
          split
          · exact extracted
          · exact keeps.note _ _ extracted

end

end Toggle

namespace Workspace

open Machine

theorem files_kept (settings : Settings) (start : Machine) :
    Toggle.Keeps (tools settings) (Unmoved start)
      (fun cause machine => Leaves settings start cause machine.system) where
  built := by
    intro code machine report after unmoved built
    have effect := build_effect settings code machine
    rw [show build settings code machine = (.ok report, after) from built] at effect
    exact unmoved.trans (effect.returned report rfl)
  failed := by
    intro code machine cause after unmoved built
    have effect := build_effect settings code machine
    rw [show build settings code machine = (.error cause, after) from built] at effect
    exact (effect.failed cause rfl).of_unmoved unmoved
  note := fun _ _ unmoved => ⟨unmoved.files, unmoved.here, unmoved.temp, unmoved.names⟩

theorem causes_known (settings : Settings) (start : Machine) :
    Toggle.Keeps (tools settings) (Unmoved start) (fun cause _ => Fails settings start cause) where
  built := (files_kept settings start).built
  failed := by
    intro code machine cause after unmoved built
    have failed : (build settings code machine).1 = .error cause := by
      rw [show build settings code machine = (.error cause, after) from built]
    exact (build_fails failed).earlier unmoved.here unmoved.temp unmoved.names
  note := (files_kept settings start).note

theorem calm_kept (settings : Settings) :
    Toggle.Keeps (tools settings) Calm (fun cause _ => cause ≠ .interrupted) where
  built := by
    intro code machine report after calm built
    have kept := (build_calm settings code calm).1
    rwa [show build settings code machine = (.ok report, after) from built] at kept
  failed := by
    rintro code machine cause after calm built rfl
    have foreseen := (build_calm settings code calm).2
    rw [show build settings code machine = (.error .interrupted, after) from built] at foreseen
    exact foreseen rfl
  note := fun _ _ calm => calm

end Workspace

end BlankUse
