import BlankUse.Session
import BlankUse.Proofs.Acceptance
import BlankUse.Proofs.Reported
import BlankUse.Proofs.UsageRemoval

/-!
What a toggle that adds usages returns. The first build only decides which lines are hidden from the
second. They are commented out and back around the usages, so all that is left of the two builds is
what the second one said about unused variables.
-/

namespace BlankUse

open LineBuffer

variable {Cause : Type}

/-- The next two builds end in these reports, and no cancellation is seen before the second starts.
-/
def Session.Answers (session : Session Cause) (first second : Report) : Prop :=
  ∃ early late later,
    session.script = ⟨.ok first, early⟩ :: ⟨.ok second, late⟩ :: later ∧
      (session.heeding = true → session.cancelled = false ∧ early = false)

namespace Session

theorem build_scripted {session : Session Cause} {report : Report} {cancels : Bool}
    {later : List (ScriptedBuild Cause)} (script : session.script = ⟨.ok report, cancels⟩ :: later)
    (code : Bytes) :
    ∃ built, tools.build code session = (.ok report, built) ∧ built.script = later ∧
      built.heeding = session.heeding ∧ built.cancelled = (cancels || session.cancelled) := by
  refine ⟨_, Prod.ext (by simp [tools, build, next, script]) rfl, ?_⟩
  cases cancels <;> simp [tools, build, next, script, requestCancel, note]

variable {session : Session Cause} {first second : Report}

theorem Answers.uncancelled (answers : session.Answers first second) :
    tools.cancelled session = false := by
  obtain ⟨early, late, later, -, heeds⟩ := answers
  cases heeded : session.heeding with
  | false => simp [tools, heeded]
  | true => simp [tools, (heeds heeded).1]

theorem Answers.second_build (answers : session.Answers first second) (code : Bytes) :
    ∃ built, tools.build code session = (.ok first, built) ∧
      ∀ state : Session Cause, state.script = built.script → state.heeding = built.heeding →
        state.cancelled = built.cancelled →
        tools.cancelled state = false ∧
          ∀ next, ∃ again, tools.build next state = (.ok second, again) := by
  obtain ⟨early, late, later, script, heeds⟩ := answers
  obtain ⟨built, reported, rest, heeding, cancelled⟩ := build_scripted script code
  refine ⟨built, reported, ?_⟩
  intro state sameScript sameHeeding sameCancelled
  constructor
  · change (state.heeding && state.cancelled) = false
    rw [sameHeeding, sameCancelled, heeding, cancelled]
    cases heeded : session.heeding with
    | false => rfl
    | true => simp [heeds heeded]
  · intro next
    obtain ⟨again, reported, -⟩ := build_scripted (sameScript.trans rest) next
    exact ⟨again, reported⟩

end Session

namespace Toggle

section

variable {State : Type} {tools : Toolchain State Cause} {state built : State} {report : Report}

theorem extract_ok {kind : Kind} {code : Bytes} {findings : List Finding} {after : State}
    (uncancelled : tools.cancelled state = false)
    (reported : tools.build code state = (.ok report, built))
    (returned : extract tools kind code state = (.ok findings, after)) :
    (report.symbols kind).map Symbol.finding = findings ∧
      ∃ entry, after = tools.note entry built := by
  simp only [extract, uncancelled, reported, Bool.false_eq_true, if_false] at returned
  split at returned
  · next succeeded =>
    cases returned
    exact ⟨by simp [Report.symbols, succeeded], _, rfl⟩
  · next failed =>
    split at returned
    · cases returned
    · next read =>
      cases returned
      refine ⟨?_, _, rfl⟩
      rw [Report.symbols, if_neg failed]
      exact Kind.findings_ok read

theorem add_usages_ok {marker : Marker} {hidden : List Int} {lines : List Bytes} {result : Bytes}
    (uncancelled : tools.cancelled state = false)
    (reported : tools.build (toCode lines) state = (.ok report, built))
    (returned : (addUsages tools marker hidden lines state).1 = .ok result) :
    ∃ marked restored,
      appendUsages marker ((report.symbols .unused).map Symbol.finding) lines = ⟨marked, none⟩ ∧
      uncomment hidden marked = ⟨restored, none⟩ ∧ result = toCode restored := by
  simp only [addUsages] at returned
  split at returned
  · cases returned
  · next unused after extracted =>
    rw [(extract_ok uncancelled reported extracted).1]
    split at returned
    · cases returned
    · next marked appended =>
      split at returned
      · cases returned
      · next restored uncommented =>
        cases returned
        exact ⟨marked, restored, appended, uncommented, rfl⟩

end

theorem note_commented_frame (numbers : List Int) (session : Session Cause) :
    (noteCommented Session.tools numbers session).script = session.script ∧
      (noteCommented Session.tools numbers session).heeding = session.heeding ∧
      (noteCommented Session.tools numbers session).cancelled = session.cancelled := by
  unfold noteCommented
  split <;> exact ⟨rfl, rfl, rfl⟩

variable {marker : Marker} {code result : Bytes} {session : Session Cause} {first second : Report}

/-- What is returned is the code with usages for the second report: the lines that the first one
hides are back as they were. -/
theorem add_ok (answers : session.Answers first second)
    (returned : (add Session.tools marker code session).1 = .ok result) :
    ∃ lines, appendUsages marker ((second.symbols .unused).map Symbol.finding) (ofCode code) =
      ⟨lines, none⟩ ∧ result = toCode lines := by
  obtain ⟨built, reported, follows⟩ := answers.second_build code
  simp only [add] at returned
  split at returned
  · cases returned
  · next missing noted extracted =>
    split at returned
    · cases returned
    · next commented hidden done =>
      obtain ⟨-, entry, rfl⟩ := extract_ok answers.uncancelled reported extracted
      obtain ⟨script, heeding, cancelled⟩ :=
        note_commented_frame hidden (Session.tools.note entry built)
      obtain ⟨uncancelled, again⟩ := follows _ script heeding cancelled
      obtain ⟨rebuilt, reported⟩ := again (toCode commented)
      obtain ⟨marked, restored, appended, uncommented, rfl⟩ :=
        add_usages_ok uncancelled reported returned
      exact ⟨restored, append_usages_of_commented done appended uncommented, rfl⟩

def usedLines (marker : Marker) (report : Report) (code : Bytes) : List Bytes :=
  marker.withUsages (fun index => report.unusedOn (index + 1)) (ofCode code)

theorem append_usages_symbols {symbols : List Symbol} {lines marked : List Bytes}
    (appended : appendUsages marker (symbols.map Symbol.finding) lines = ⟨marked, none⟩) :
    (∀ symbol ∈ symbols, Inside lines (symbol.number - 1)) ∧
      marked = marker.withUsages (fun index =>
        (symbols.filter fun symbol => symbol.number = (index : Int) + 1).map Symbol.name)
          lines := by
  have inside : ∀ symbol ∈ symbols, Inside lines (symbol.number - 1) := by
    simpa [Symbol.finding] using apply_edits_inside_of_done appended
  refine ⟨inside, ?_⟩
  rw [append_usages_of_inside _ _ _ (by simpa [Symbol.finding] using inside)] at appended
  cases appended
  simp only [usagesOn, names_on_symbols, Marker.withUsages]

theorem run_ok (clean : marker.strip code = none) (answers : session.Answers first second)
    (returned : (run Session.tools marker code session).1 = .ok result) :
    (∀ symbol ∈ second.symbols .unused, Inside (ofCode code) (symbol.number - 1)) ∧
      result = toCode (usedLines marker second code) := by
  rw [run, clean] at returned
  obtain ⟨lines, appended, rfl⟩ := add_ok answers returned
  obtain ⟨inside, rfl⟩ := append_usages_symbols appended
  exact ⟨inside, rfl⟩

theorem used_names_free (tool : marker.tool.WordChars) (report : Report) (index : Nat) :
    ∀ name ∈ report.unusedOn (index + 1), Byte.newline ∉ marker.render name := by
  intro name named
  obtain ⟨symbol, member, rfl⟩ := List.mem_map.mp named
  exact Marker.render_free tool (report.symbol_word symbol (List.mem_of_mem_filter member))

theorem of_code_used_lines (tool : marker.tool.WordChars) (report : Report) (code : Bytes) :
    ofCode (toCode (usedLines marker report code)) = usedLines marker report code := by
  apply of_code_to_code
  · simp [usedLines, Marker.withUsages, of_code_ne_nil]
  · exact Marker.with_usages_free _ _ (of_code_newline_free code) (used_names_free tool report)

theorem used_lines_of_none {report : Report} (unreported : report.symbols .unused = []) :
    usedLines marker report code = ofCode code := by
  apply List.ext_getElem?
  intro index
  simp only [usedLines, Marker.withUsages, Report.unusedOn, unreported, List.getElem?_mapIdx]
  cases (ofCode code)[index]? with
  | none => rfl
  | some line => simp [append_before_return_nil]

/-- A toggle that adds usages keeps the lines of the code. Each of them gets the usages of the
unused variables that the second build reports on it, in the order of the report and before a
carriage return at its end. What the first build says makes no difference to what is returned. -/
theorem toggle_adds_reported_usages (environment : Environment) (data : Data) (settings : Settings)
    (accepted : (Settings.ofData environment data).outcome = .ok settings) (code result : Bytes)
    (clean : Marker.strip ⟨settings.toolName⟩ code = none) (session : Session Cause)
    (first second : Report) (answers : session.Answers first second)
    (returned : (run Session.tools ⟨settings.toolName⟩ code session).1 = .ok result) :
    (ofCode result).length = (ofCode code).length ∧
    (∀ (index : Nat) (line : Bytes), (ofCode code)[index]? = some line →
      (ofCode result)[index]? = some (body line ++
        (second.unusedOn (index + 1)).flatMap (Marker.render ⟨settings.toolName⟩) ++
          ending line)) ∧
    (∀ (otherFirst : Report) (otherSession : Session Cause) (otherResult : Bytes),
      otherSession.Answers otherFirst second →
      (run Session.tools ⟨settings.toolName⟩ code otherSession).1 = .ok otherResult →
      otherResult = result) ∧
    (second.symbols .unused = [] → result = code) := by
  have tool : Text.WordChars settings.toolName := Settings.accepted_tool_word accepted
  obtain ⟨-, rfl⟩ := run_ok clean answers returned
  rw [of_code_used_lines tool]
  refine ⟨?_, ?_, ?_, ?_⟩
  · simp [usedLines, Marker.withUsages]
  · intro index line atLine
    rw [usedLines, Marker.withUsages, List.getElem?_mapIdx, atLine, Option.map_some,
      append_before_return_eq]
  · intro otherFirst otherSession otherResult otherAnswers otherReturned
    exact (run_ok clean otherAnswers otherReturned).2
  · intro unreported
    rw [used_lines_of_none unreported, to_code_of_code]

/-- The first build has a line commented out on which the second finds two unused variables. -/
def sharedLine : Session Unit :=
  .start [⟨.ok ⟨false, "a.go:1:8: no required module provides package q".toList⟩, false⟩,
    ⟨.ok ⟨false, "a.go:1:1: declared and not used: v\na.go:1:5: w declared but not used".toList⟩,
      true⟩] true

theorem toggle_adds_reported_usages_shared :
    let result :=
      Marker.ascii "q; _ = v /* TODO: gouse */; _ = w /* TODO: gouse */\r\n".toList
    (run Session.tools ⟨Settings.default.toolName⟩ (Marker.ascii ['q', '\r', '\n']) sharedLine).1 =
        .ok result ∧
      (ofCode result).length = 2 ∧
      ∀ (otherFirst : Report) (otherSession : Session Unit) (otherResult : Bytes),
        otherSession.Answers otherFirst ⟨false,
          "a.go:1:1: declared and not used: v\na.go:1:5: w declared but not used".toList⟩ →
        (run Session.tools ⟨Settings.default.toolName⟩ (Marker.ascii ['q', '\r', '\n'])
          otherSession).1 = .ok otherResult → otherResult = result := by
  intro result
  have returned : (run Session.tools ⟨Settings.default.toolName⟩ (Marker.ascii ['q', '\r', '\n'])
      sharedLine).1 = .ok result := by rfl
  have adds := toggle_adds_reported_usages [] ⟨#[.map []], .collection 0⟩ Settings.default (by rfl)
    _ result (by decide) sharedLine _ _ ⟨false, true, [], rfl, fun _ => ⟨rfl, rfl⟩⟩ returned
  exact ⟨returned, adds.1, adds.2.2.1⟩

end Toggle

end BlankUse
