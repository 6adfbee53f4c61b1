import BlankUse.Proofs.AddingToggle
import BlankUse.Proofs.Placement

/-!
The course of a toggle under a script: which builds it starts, and what it comes to. A toggle has two
stages of the same shape. Each is skipped if the token is cancelled; otherwise it builds once, and it
ends the toggle if the build raises or if its report cannot be used. What is known about builds and
errors, and about cancellation, is read off the course.
-/

namespace BlankUse

open LineBuffer

variable {Cause : Type}

namespace Session

def ahead (session : Session Cause) (index : Nat) : ScriptedBuild Cause :=
  session.script.getD index ⟨.ok ⟨true, []⟩, false⟩

def cancelledAfter (session : Session Cause) (count : Nat) : Bool :=
  session.cancelled || (session.script.take count).any ScriptedBuild.cancels

/-- Whether a toggle sees the token cancelled once the next `count` builds have run. -/
def stopsAfter (session : Session Cause) (count : Nat) : Bool :=
  session.heeding && session.cancelledAfter count

structure Advanced (session after : Session Cause) (made : List Bytes) : Prop where
  script : after.script = session.script.drop made.length
  heeding : after.heeding = session.heeding
  cancelled : after.cancelled = session.cancelledAfter made.length
  builds : after.builds = session.builds ++ made

theorem cancelled_after_succ (session : Session Cause) (count : Nat) :
    session.cancelledAfter (count + 1) =
      (session.cancelledAfter count || (session.ahead count).cancels) := by
  have last : (session.script[count]?.toList).any ScriptedBuild.cancels =
      (session.ahead count).cancels := by
    rw [ahead, List.getD_eq_getElem?_getD]
    cases session.script[count]? with
    | none => rfl
    | some scripted => simp
  rw [cancelledAfter, List.take_add_one, List.any_append, last, cancelledAfter, Bool.or_assoc]

variable {session after : Session Cause} {made : List Bytes}

theorem Advanced.refl (session : Session Cause) : Advanced session session [] :=
  ⟨rfl, rfl, by simp [cancelledAfter], by simp⟩

theorem Advanced.note (advanced : Advanced session after made) (entry : Note) :
    Advanced session (tools.note entry after) made :=
  ⟨advanced.script, advanced.heeding, advanced.cancelled, advanced.builds⟩

theorem Advanced.sees (advanced : Advanced session after made) :
    tools.cancelled after = session.stopsAfter made.length := by
  change (after.heeding && after.cancelled) = _
  rw [advanced.heeding, advanced.cancelled, stopsAfter]

theorem Advanced.build (advanced : Advanced session after made) (code : Bytes) :
    (tools.build code after).1 = (session.ahead made.length).outcome ∧
      Advanced session (tools.build code after).2 (made ++ [code]) := by
  have next : after.next = session.ahead made.length := by
    rw [Session.next, advanced.script, ahead, List.headD_eq_head?_getD, List.head?_drop,
      List.getD_eq_getElem?_getD]
  have size : (made ++ [code]).length = made.length + 1 := by simp
  refine ⟨congrArg ScriptedBuild.outcome next, ?_⟩
  simp only [tools, Session.build, next]
  cases cancels : (session.ahead made.length).cancels with
  | true =>
      refine ⟨?_, advanced.heeding, ?_, ?_⟩
      · simp [requestCancel, Session.note, advanced.script, size]
      · simp [requestCancel, size, cancelled_after_succ, cancels]
      · simp [requestCancel, Session.note, advanced.builds]
  | false =>
      refine ⟨?_, advanced.heeding, ?_, ?_⟩
      · simp [advanced.script, size]
      · simp [size, cancelled_after_succ, cancels, advanced.cancelled]
      · simp [advanced.builds]

end Session

def Report.timesOn (report : Report) (kind : Kind) (number : Int) : Nat :=
  (report.symbols kind).countP fun symbol => symbol.number = number

def Report.hiddenLines (report : Report) (code : Bytes) : List Bytes :=
  (ofCode code).mapIdx fun index line =>
    commentFront (report.timesOn .missingProvider (index + 1)) ++ line

theorem Report.count_lines (report : Report) (kind : Kind) (index : Nat) :
    (((report.symbols kind).map Symbol.finding).map Finding.line).count (index : Int) =
      report.timesOn kind (index + 1) := by
  rw [List.map_map, List.count_eq_countP, List.countP_map, timesOn]
  apply List.countP_congr
  intro symbol _
  simp only [Function.comp_apply, Symbol.finding, beq_iff_eq, decide_eq_true_eq]
  omega

theorem comment_front_free (depth : Nat) : Byte.newline ∉ commentFront depth := by
  simp only [commentFront, List.mem_flatten, List.mem_replicate, not_exists, not_and]
  rintro mark ⟨-, rfl⟩
  decide

theorem Report.of_code_hidden (report : Report) (code : Bytes) :
    ofCode (toCode (report.hiddenLines code)) = report.hiddenLines code := by
  apply of_code_to_code
  · simp [hiddenLines, of_code_ne_nil]
  · intro hidden member
    obtain ⟨index, bounded, rfl⟩ := List.mem_mapIdx.mp member
    rw [List.mem_append, not_or]
    exact ⟨comment_front_free _, of_code_newline_free code _ (List.getElem_mem bounded)⟩

namespace Toggle

open Session

/-- One stage of a toggle before its edits: what it hears, and the builds that are made by then. -/
inductive Extracted (session : Session Cause) (made : List Bytes) (kind : Kind) (code : Bytes) :
    Except (Failure Cause) (List Finding) → List Bytes → Prop
  | skipped (cancelled : session.stopsAfter made.length = true) :
      Extracted session made kind code (.ok []) made
  | broken (going : session.stopsAfter made.length = false) (cause : Cause)
      (raised : (session.ahead made.length).outcome = .error cause) :
      Extracted session made kind code (.error (.build cause)) (made ++ [code])
  | misread (going : session.stopsAfter made.length = false) (report : Report)
      (reported : (session.ahead made.length).outcome = .ok report)
      (problem : Diagnostic.Problem) (failed : report.success = false)
      (stuck : kind.findings report.lines = .error problem) :
      Extracted session made kind code (.error (.diagnostic problem)) (made ++ [code])
  | heard (going : session.stopsAfter made.length = false) (report : Report)
      (reported : (session.ahead made.length).outcome = .ok report) (findings : List Finding)
      (read : report.Read kind findings) :
      Extracted session made kind code (.ok findings) (made ++ [code])

theorem extract_extracted {session state : Session Cause} {made : List Bytes}
    (advanced : session.Advanced state made) (kind : Kind) (code : Bytes) :
    ∃ now, Extracted session made kind code (extract tools kind code state).1 now ∧
      session.Advanced (extract tools kind code state).2 now := by
  obtain ⟨outcome, built⟩ := advanced.build code
  unfold extract
  rw [advanced.sees]
  split
  · next cancelled => exact ⟨made, .skipped cancelled, advanced.note _⟩
  · next going =>
    rw [Bool.not_eq_true] at going
    generalize tools.build code state = result at outcome built
    obtain ⟨reported, after⟩ := result
    cases reported with
    | error cause => exact ⟨_, .broken going cause outcome.symm, built⟩
    | ok report =>
        dsimp only
        split
        · next succeeded =>
          exact ⟨_, .heard going report outcome.symm [] (Or.inl ⟨succeeded, rfl⟩), built.note _⟩
        · next failed =>
          rw [Bool.not_eq_true] at failed
          split
          · next problem stuck =>
            exact ⟨_, .misread going report outcome.symm problem failed stuck, built⟩
          · next findings read =>
            exact ⟨_, .heard going report outcome.symm findings (Or.inr ⟨failed, read⟩),
              built.note _⟩

inductive Second (marker : Marker) (code : Bytes) (session : Session Cause) (made : List Bytes)
    (hidden : Bytes) : Except (Failure Cause) Bytes → List Bytes → Prop
  | skipped (cancelled : session.stopsAfter made.length = true) :
      Second marker code session made hidden (.ok code) made
  | broken (going : session.stopsAfter made.length = false) (cause : Cause)
      (raised : (session.ahead made.length).outcome = .error cause) :
      Second marker code session made hidden (.error (.build cause)) (made ++ [hidden])
  | rejected (going : session.stopsAfter made.length = false) (report : Report)
      (reported : (session.ahead made.length).outcome = .ok report)
      (unusable : report.Unusable .unused (ofCode code).length) (problem : Diagnostic.Problem)
      (told : problem ≠ .unwritable) :
      Second marker code session made hidden (.error (.diagnostic problem)) (made ++ [hidden])
  | added (going : session.stopsAfter made.length = false) (report : Report)
      (reported : (session.ahead made.length).outcome = .ok report)
      (usable : ¬ report.Unusable .unused (ofCode code).length) :
      Second marker code session made hidden (.ok (toCode (usedLines marker report code)))
        (made ++ [hidden])

theorem Second.of_cancelled {marker : Marker} {code hidden : Bytes} {session : Session Cause}
    {made now : List Bytes} {outcome : Except (Failure Cause) Bytes}
    (second : Second marker code session made hidden outcome now)
    (cancelled : session.stopsAfter made.length = true) : outcome = .ok code ∧ now = made := by
  cases second with
  | skipped _ => exact ⟨rfl, rfl⟩
  | broken going _ _ => exact absurd (cancelled.symm.trans going) (by decide)
  | rejected going _ _ _ _ _ => exact absurd (cancelled.symm.trans going) (by decide)
  | added going _ _ _ => exact absurd (cancelled.symm.trans going) (by decide)

theorem note_added_advanced {session state : Session Cause} {made : List Bytes}
    (advanced : session.Advanced state made) (findings : List Finding) :
    session.Advanced (noteAdded tools findings state) made := by
  unfold noteAdded
  split
  · exact advanced
  · exact advanced.note _

theorem note_commented_advanced {session state : Session Cause} {made : List Bytes}
    (advanced : session.Advanced state made) (numbers : List Int) :
    session.Advanced (noteCommented tools numbers state) made := by
  unfold noteCommented
  split
  · exact advanced
  · exact advanced.note _

/-- Usages on lines of which some are commented out: if the report is usable, they go through and end
up on the lines of the code. -/
theorem restored_of_read (marker : Marker) {code : Bytes} {numbers hidden : List Int}
    {commented : List Bytes} (done : commentOut numbers (ofCode code) = ⟨⟨commented, none⟩, hidden⟩)
    {report : Report} {findings : List Finding} (read : report.Read .unused findings) :
    (∃ done problem, appendUsages marker findings commented = ⟨done, some problem⟩ ∧
      report.Unusable .unused (ofCode code).length ∧ problem ≠ .unwritable) ∨
    (∃ marked, appendUsages marker findings commented = ⟨marked, none⟩ ∧
      uncomment hidden marked = ⟨usedLines marker report code, none⟩ ∧
      ¬ report.Unusable .unused (ofCode code).length) := by
  obtain ⟨inside, rfl⟩ := inside_of_commented done
  have length : commented.length = (ofCode code).length := by
    rw [comment_out_of_inside hidden _ inside] at done
    cases done
    simp
  cases appended : appendUsages marker findings commented with
  | mk marked problem =>
      cases problem with
      | some problem =>
          obtain ⟨unusable, told⟩ := read.problem
            (fun finding => appendBeforeReturn (marker.render finding.name)) appended
          rw [length] at unusable
          exact Or.inl ⟨marked, problem, rfl, unusable, told⟩
      | none =>
          have findingsInside : ∀ finding ∈ findings, Inside (ofCode code) finding.line := by
            simpa [Inside, length] using apply_edits_inside_of_done appended
          have restored := uncomment_append_comment marker (List.Perm.refl hidden) findings _ inside
            findingsInside
          rw [done, appended] at restored
          have used : appendUsages marker findings (ofCode code) =
              ⟨usedLines marker report code, none⟩ := by
            have whole := append_usages_of_inside marker findings _ findingsInside
            rw [← read.symbols] at whole ⊢
            rw [whole, (append_usages_symbols whole).2]
            rfl
          refine Or.inr ⟨marked, rfl, restored.trans used, ?_⟩
          exact (read.inside_iff (ofCode code)).mp findingsInside

theorem add_usages_second (marker : Marker) {code : Bytes} {session state : Session Cause}
    {made : List Bytes} (advanced : session.Advanced state made) {numbers hidden : List Int}
    {commented : List Bytes}
    (done : commentOut numbers (ofCode code) = ⟨⟨commented, none⟩, hidden⟩) :
    ∃ now, Second marker code session made (toCode commented)
        (addUsages tools marker hidden commented state).1 now ∧
      session.Advanced (addUsages tools marker hidden commented state).2 now := by
  obtain ⟨now, extracted, after⟩ := extract_extracted advanced .unused (toCode commented)
  unfold addUsages
  generalize extract tools .unused (toCode commented) state = result at extracted after
  obtain ⟨outcome, built⟩ := result
  cases extracted with
  | broken going cause raised => exact ⟨_, .broken going cause raised, after⟩
  | misread going report reported problem failed stuck =>
      obtain ⟨unusable, told⟩ := Report.unusable_of_reading failed stuck (ofCode code).length
      exact ⟨_, .rejected going report reported unusable problem told, after⟩
  | skipped cancelled =>
      have silent : Report.Read ⟨true, []⟩ .unused [] := Or.inl ⟨rfl, rfl⟩
      have nothing : usedLines marker ⟨true, []⟩ code = ofCode code := used_lines_of_none rfl
      rcases restored_of_read marker done silent with
        ⟨done, problem, -, unusable, -⟩ | ⟨marked, appended, uncommented, -⟩
      · cases unusable.1
      · rw [nothing] at uncommented
        simp only [appended, uncommented, to_code_of_code]
        exact ⟨_, .skipped cancelled, note_added_advanced after []⟩
  | heard going report reported findings read =>
      rcases restored_of_read marker done read with
        ⟨done, problem, appended, unusable, told⟩ | ⟨marked, appended, uncommented, usable⟩
      · simp only [appended]
        exact ⟨_, .rejected going report reported unusable problem told, after⟩
      · simp only [appended, uncommented]
        exact ⟨_, .added going report reported usable, note_added_advanced after findings⟩

/-- What a toggle can come to, and the builds it has made by then. -/
inductive Course (marker : Marker) (code : Bytes) (session : Session Cause) :
    Except (Failure Cause) Bytes → List Bytes → Prop
  | stripped (removal : Marker.Removal) (found : marker.strip code = some removal) :
      Course marker code session (.ok removal.code) []
  | unstarted (clean : marker.strip code = none) (cancelled : session.stopsAfter 0 = true) :
      Course marker code session (.ok code) []
  | broken (clean : marker.strip code = none) (going : session.stopsAfter 0 = false)
      (cause : Cause) (raised : (session.ahead 0).outcome = .error cause) :
      Course marker code session (.error (.build cause)) [code]
  | rejected (clean : marker.strip code = none) (going : session.stopsAfter 0 = false)
      (report : Report) (reported : (session.ahead 0).outcome = .ok report)
      (unusable : report.Unusable .missingProvider (ofCode code).length)
      (problem : Diagnostic.Problem) (told : problem ≠ .unwritable) :
      Course marker code session (.error (.diagnostic problem)) [code]
  | hidden (clean : marker.strip code = none) (going : session.stopsAfter 0 = false)
      (report : Report) (reported : (session.ahead 0).outcome = .ok report)
      (usable : ¬ report.Unusable .missingProvider (ofCode code).length)
      {outcome : Except (Failure Cause) Bytes} {made : List Bytes}
      (second : Second marker code session [code] (toCode (report.hiddenLines code)) outcome made) :
      Course marker code session outcome made

theorem hidden_of_read (code : Bytes) {report : Report} {findings : List Finding}
    (read : report.Read .missingProvider findings) :
    (∃ done problem hidden,
      commentOut (findings.map Finding.line) (ofCode code) = ⟨⟨done, some problem⟩, hidden⟩ ∧
      report.Unusable .missingProvider (ofCode code).length ∧ problem ≠ .unwritable) ∨
    (commentOut (findings.map Finding.line) (ofCode code) =
        ⟨⟨report.hiddenLines code, none⟩, findings.map Finding.line⟩ ∧
      ¬ report.Unusable .missingProvider (ofCode code).length) := by
  cases edited : commentOut (findings.map Finding.line) (ofCode code) with
  | mk lines hidden =>
      obtain ⟨done, problem⟩ := lines
      cases problem with
      | some problem =>
          have applied := congrArg Commented.toEdited edited
          rw [commentOut, List.map_map] at applied
          obtain ⟨unusable, told⟩ := read.problem (fun _ => comment) applied
          exact Or.inl ⟨done, problem, hidden, rfl, unusable, told⟩
      | none =>
          obtain ⟨inside, rfl⟩ := inside_of_commented edited
          have marked := comment_out_of_inside _ _ inside
          rw [edited, Commented.mk.injEq, Edited.mk.injEq] at marked
          refine Or.inr ⟨?_, (read.inside_iff _).mp (by simpa using inside)⟩
          simp only [marked.1.1, ← read.symbols, Report.count_lines]
          rfl

/-- Every toggle takes one of the courses. -/
theorem run_course (marker : Marker) (code : Bytes) (session : Session Cause) :
    ∃ made, Course marker code session (run tools marker code session).1 made ∧
      session.Advanced (run tools marker code session).2 made := by
  have start := Advanced.refl session
  unfold run
  cases clean : marker.strip code with
  | some removal => exact ⟨[], .stripped removal clean, start.note _⟩
  | none =>
      obtain ⟨now, extracted, after⟩ := extract_extracted start .missingProvider code
      unfold add
      generalize extract tools .missingProvider code session = result at extracted after
      obtain ⟨outcome, built⟩ := result
      cases extracted with
      | broken going cause raised => exact ⟨_, .broken clean going cause raised, after⟩
      | misread going report reported problem failed stuck =>
          obtain ⟨unusable, told⟩ := Report.unusable_of_reading failed stuck (ofCode code).length
          exact ⟨_, .rejected clean going report reported unusable problem told, after⟩
      | skipped cancelled =>
          -- Nothing is commented out, and the second stage is skipped like the first.
          have hidden : commentOut [] (ofCode code) = ⟨⟨ofCode code, none⟩, []⟩ := rfl
          obtain ⟨made, second, later⟩ :=
            add_usages_second marker (note_commented_advanced after []) hidden
          obtain ⟨outcome, rfl⟩ := second.of_cancelled cancelled
          simp only [List.map_nil, hidden, outcome]
          exact ⟨[], .unstarted clean cancelled, later⟩
      | heard going report reported findings read =>
          rcases hidden_of_read code read with
            ⟨done, problem, hidden, edited, unusable, told⟩ | ⟨edited, usable⟩
          · simp only [edited]
            exact ⟨_, .rejected clean going report reported unusable problem told, after⟩
          · simp only [edited]
            obtain ⟨made, second, later⟩ :=
              add_usages_second marker (note_commented_advanced after _) edited
            exact ⟨made, .hidden clean going report reported usable second, later⟩

/-- The builds of a toggle and the errors it ends in, when these builds were made. -/
structure Account (marker : Marker) (code : Bytes) (session : Session Cause)
    (outcome : Except (Failure Cause) Bytes) (made : List Bytes) : Prop where
  atMostTwo : made.length ≤ 2
  removal : marker.strip code ≠ none → made = [] ∧ ∃ result, outcome = .ok result
  firstBuilt : 0 < made.length ↔ marker.strip code = none ∧ session.stopsAfter 0 = false
  /-- The second build is made unless the token is cancelled by then or the first build has ended
  the toggle, by raising or by a report that cannot be used. -/
  secondBuilt : made.length = 2 ↔ 0 < made.length ∧ session.stopsAfter 1 = false ∧
    ∃ report, (session.ahead 0).outcome = .ok report ∧
      ¬ report.Unusable .missingProvider (ofCode code).length
  firstSource : ∀ source, made[0]? = some source → source = code
  secondSource : ∀ source, made[1]? = some source →
    ∃ report, (session.ahead 0).outcome = .ok report ∧
      (ofCode source).length = (ofCode code).length ∧
      ∀ (index : Nat) (line : Bytes), (ofCode code)[index]? = some line →
        (ofCode source)[index]? =
          some (commentFront (report.timesOn .missingProvider (index + 1)) ++ line)
  raises : ∀ cause, outcome = .error (.build cause) ↔
    (made.length = 1 ∧ (session.ahead 0).outcome = .error cause) ∨
      (made.length = 2 ∧ (session.ahead 1).outcome = .error cause)
  rejects : (∃ problem, outcome = .error (.diagnostic problem)) ↔
    (0 < made.length ∧ ∃ report, (session.ahead 0).outcome = .ok report ∧
      report.Unusable .missingProvider (ofCode code).length) ∨
    (made.length = 2 ∧ ∃ report, (session.ahead 1).outcome = .ok report ∧
      report.Unusable .unused (ofCode code).length)
  told : outcome ≠ .error (.diagnostic .unwritable)

theorem hidden_source (report : Report) (code : Bytes) :
    (ofCode (toCode (report.hiddenLines code))).length = (ofCode code).length ∧
      ∀ (index : Nat) (line : Bytes), (ofCode code)[index]? = some line →
        (ofCode (toCode (report.hiddenLines code)))[index]? =
          some (commentFront (report.timesOn .missingProvider (index + 1)) ++ line) := by
  rw [report.of_code_hidden]
  constructor
  · simp [Report.hiddenLines]
  · intro index line atLine
    rw [Report.hiddenLines, List.getElem?_mapIdx, atLine]
    rfl

variable {marker : Marker} {code : Bytes} {session : Session Cause}
  {outcome : Except (Failure Cause) Bytes} {made : List Bytes}

theorem Second.account (clean : marker.strip code = none) (going : session.stopsAfter 0 = false)
    {report : Report} (reported : (session.ahead 0).outcome = .ok report)
    (usable : ¬ report.Unusable .missingProvider (ofCode code).length)
    (second : Second marker code session [code] (toCode (report.hiddenLines code)) outcome made) :
    Account marker code session outcome made := by
  have hidden : ∀ source, [code, toCode (report.hiddenLines code)][1]? = some source →
      ∃ report, (session.ahead 0).outcome = .ok report ∧
        (ofCode source).length = (ofCode code).length ∧
        ∀ (index : Nat) (line : Bytes), (ofCode code)[index]? = some line →
          (ofCode source)[index]? =
            some (commentFront (report.timesOn .missingProvider (index + 1)) ++ line) := by
    rintro source ⟨⟩
    exact ⟨report, reported, hidden_source report code⟩
  cases second with
  | skipped cancelled =>
      have stopped : session.stopsAfter 1 = true := cancelled
      constructor <;> simp [clean, going, stopped, reported, usable]
  | broken onward cause raised =>
      have continued : session.stopsAfter 1 = false := onward
      have outcome : (session.ahead 1).outcome = .error cause := raised
      constructor
      case secondSource => exact hidden
      all_goals simp [clean, going, continued, reported, usable, outcome]
  | rejected onward other again unusable problem told =>
      have continued : session.stopsAfter 1 = false := onward
      have outcome : (session.ahead 1).outcome = .ok other := again
      constructor
      case secondSource => exact hidden
      all_goals simp [clean, going, continued, reported, usable, outcome, unusable, told]
  | added onward other again fits =>
      have continued : session.stopsAfter 1 = false := onward
      have outcome : (session.ahead 1).outcome = .ok other := again
      constructor
      case secondSource => exact hidden
      all_goals simp [clean, going, continued, reported, usable, outcome, fits]

theorem Course.account (course : Course marker code session outcome made) :
    Account marker code session outcome made := by
  cases course with
  | stripped removal found => constructor <;> simp [found]
  | unstarted clean cancelled => constructor <;> simp [clean, cancelled]
  | broken clean going cause raised => constructor <;> simp [clean, going, raised]
  | rejected clean going report reported unusable problem told =>
      constructor <;> simp [clean, going, reported, unusable, told]
  | hidden clean going report reported usable second =>
      exact second.account clean going reported usable

/-- A toggle makes at most two builds, none if there is something to remove, and each of them only if
the token is not cancelled at that moment. The first is of the code itself and the second of the code
with a comment mark for each time the first report names a line. What a build raises comes out of the
toggle. Otherwise the toggle ends in an error exactly if a build that was made failed and names a line
that the code does not have, and the error can always be told. -/
theorem toggle_builds_and_errors (marker : Marker) (code : Bytes) (session : Session Cause) :
    ∃ made, (run tools marker code session).2.builds = session.builds ++ made ∧
      Account marker code session (run tools marker code session).1 made := by
  obtain ⟨made, course, advanced⟩ := run_course marker code session
  exact ⟨made, advanced.builds, course.account⟩

/-- The first report names line one twice, the second one line nine of two. -/
def misplacedSession : Session Unit :=
  .start [⟨.ok ⟨false, ("a.go:1:8: no required module provides package q\n" ++
      "a.go:1:9: no required module provides package q").toList⟩, false⟩,
    ⟨.ok ⟨false, "a.go:9:1: declared and not used: v".toList⟩, true⟩] true

theorem toggle_builds_and_errors_misplaced :
    let code := Marker.ascii ['q', '\n', 'v']
    let marker : Marker := ⟨['g', 'o', 'u', 's', 'e']⟩
    (run tools marker code misplacedSession).2.builds =
        [code, Marker.ascii "// // q\nv".toList] ∧
      ∃ problem, (run tools marker code misplacedSession).1 = .error (.diagnostic problem) := by
  intro code marker
  obtain ⟨made, builds, account⟩ := toggle_builds_and_errors marker code misplacedSession
  have built : (run tools marker code misplacedSession).2.builds =
      [code, Marker.ascii "// // q\nv".toList] := by rfl
  refine ⟨built, account.rejects.mpr (Or.inr ⟨?_, ?_⟩)⟩
  · rw [built] at builds
    exact congrArg List.length builds.symm
  · refine ⟨_, rfl, rfl, _, List.mem_singleton.mpr rfl, ⟨['9'], ['1'], ['v'], 1, 34⟩, by rfl, ?_⟩
    rintro ⟨number, read, -, bounded⟩
    have nine : Text.integer? ['9'] = some 9 := by decide
    rw [nine] at read
    cases read
    exact absurd bounded (by decide)

end Toggle

end BlankUse
