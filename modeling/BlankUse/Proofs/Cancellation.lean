import BlankUse.Proofs.Course

/-!
Cancellation over any sequence of toggles and requests on one token. A toggle looks at the token
before each build and nowhere else. So no build starts once the token is cancelled, a toggle that is
stopped between its builds gives back the code it was given, and a request that comes while the
second build runs is too late to change anything. The token stays cancelled for good.
-/

namespace BlankUse

open LineBuffer

variable {Cause : Type}

inductive Call where
  | toggle (marker : Marker) (code : Bytes)
  | requestCancel

namespace Session

def perform (session : Session Cause) : Call → Session Cause
  | .toggle marker code => (Toggle.run tools marker code session).2
  | .requestCancel => session.requestCancel

def performAll (session : Session Cause) (calls : List Call) : Session Cause :=
  calls.foldl perform session

theorem stops_zero (session : Session Cause) :
    session.stopsAfter 0 = (session.heeding && session.cancelled) := by
  simp [stopsAfter, cancelledAfter]

theorem stops_one (session : Session Cause) :
    session.stopsAfter 1 =
      (session.heeding && (session.cancelled || (session.ahead 0).cancels)) := by
  rw [stopsAfter, cancelled_after_succ session 0]
  simp [cancelledAfter]

theorem perform_heeding (session : Session Cause) (call : Call) :
    (session.perform call).heeding = session.heeding := by
  cases call with
  | requestCancel => rfl
  | toggle marker code =>
      obtain ⟨made, -, advanced⟩ := Toggle.run_course marker code session
      exact advanced.heeding

theorem perform_cancelled {session : Session Cause} (heeding : session.heeding = true)
    (cancelled : session.cancelled = true) (call : Call) :
    (session.perform call).cancelled = true ∧ (session.perform call).builds = session.builds := by
  cases call with
  | requestCancel => exact ⟨rfl, rfl⟩
  | toggle marker code =>
      obtain ⟨made, course, advanced⟩ := Toggle.run_course marker code session
      have unbuilt : ¬ 0 < made.length := by
        simp [course.account.firstBuilt, stops_zero, heeding, cancelled]
      have none : made = [] := List.length_eq_zero_iff.mp (by omega)
      constructor
      · rw [perform, advanced.cancelled, cancelledAfter, cancelled, Bool.true_or]
      · rw [perform, advanced.builds, none, List.append_nil]

theorem perform_all_heeding (session : Session Cause) (calls : List Call) :
    (session.performAll calls).heeding = session.heeding := by
  induction calls generalizing session with
  | nil => rfl
  | cons call rest ih => exact (ih (session.perform call)).trans (session.perform_heeding call)

theorem perform_all_cancelled {session : Session Cause} (heeding : session.heeding = true)
    (cancelled : session.cancelled = true) (calls : List Call) :
    (session.performAll calls).cancelled = true ∧
      (session.performAll calls).builds = session.builds := by
  induction calls generalizing session with
  | nil => exact ⟨cancelled, rfl⟩
  | cons call rest ih =>
      obtain ⟨still, unbuilt⟩ := perform_cancelled heeding cancelled call
      obtain ⟨last, same⟩ := ih ((session.perform_heeding call).trans heeding) still
      exact ⟨last, same.trans unbuilt⟩

end Session

namespace Toggle

open Session

/-! The result of a toggle depends on the token at its start, on the first build and on how the
second one ends. -/

section

variable {session other state otherState : Session Cause} {made : List Bytes}

theorem extract_same (advanced : session.Advanced state made)
    (otherAdvanced : other.Advanced otherState made)
    (stops : session.stopsAfter made.length = other.stopsAfter made.length)
    (ends : (session.ahead made.length).outcome = (other.ahead made.length).outcome)
    (kind : Kind) (code : Bytes) :
    (extract tools kind code state).1 = (extract tools kind code otherState).1 := by
  have cancelled : tools.cancelled state = tools.cancelled otherState := by
    rw [advanced.sees, otherAdvanced.sees, stops]
  have built : (tools.build code state).1 = (tools.build code otherState).1 := by
    rw [(advanced.build code).1, (otherAdvanced.build code).1, ends]
  unfold extract
  rw [cancelled]
  split
  · rfl
  · generalize tools.build code state = first at built
    generalize tools.build code otherState = second at built
    obtain ⟨outcome, after⟩ := first
    obtain ⟨otherOutcome, otherAfter⟩ := second
    obtain rfl : outcome = otherOutcome := built
    cases outcome with
    | error cause => rfl
    | ok report =>
        dsimp only
        split
        · rfl
        · split <;> rfl

theorem extract_advanced (advanced : session.Advanced state made) (kind : Kind) (code : Bytes) :
    session.Advanced (extract tools kind code state).2
      (if session.stopsAfter made.length then made else made ++ [code]) := by
  obtain ⟨now, extracted, after⟩ := extract_extracted advanced kind code
  generalize (extract tools kind code state).1 = outcome at extracted
  cases extracted with
  | skipped cancelled => rwa [if_pos cancelled]
  | broken going _ _ => rwa [going]
  | misread going _ _ _ _ _ => rwa [going]
  | heard going _ _ _ _ => rwa [going]

theorem add_usages_same {marker : Marker} {numbers : List Int} {lines : List Bytes}
    (extracted : (extract tools .unused (toCode lines) state).1 =
      (extract tools .unused (toCode lines) otherState).1) :
    (addUsages tools marker numbers lines state).1 =
      (addUsages tools marker numbers lines otherState).1 := by
  unfold addUsages
  generalize extract tools .unused (toCode lines) state = first at extracted
  generalize extract tools .unused (toCode lines) otherState = second at extracted
  obtain ⟨outcome, after⟩ := first
  obtain ⟨otherOutcome, otherAfter⟩ := second
  obtain rfl : outcome = otherOutcome := extracted
  cases outcome with
  | error failure => rfl
  | ok findings =>
      dsimp only
      split
      · rfl
      · split <;> rfl

/-- A request that comes while the second build runs is too late to change the result. -/
theorem run_same (marker : Marker) (code : Bytes) (heeding : session.heeding = other.heeding)
    (cancelled : session.cancelled = other.cancelled) (first : session.ahead 0 = other.ahead 0)
    (second : (session.ahead 1).outcome = (other.ahead 1).outcome) :
    (run tools marker code session).1 = (run tools marker code other).1 := by
  have stopsZero : session.stopsAfter 0 = other.stopsAfter 0 := by
    rw [stops_zero, stops_zero, heeding, cancelled]
  have stopsOne : session.stopsAfter 1 = other.stopsAfter 1 := by
    rw [stops_one, stops_one, heeding, cancelled, first]
  have start := Advanced.refl session
  have otherStart := Advanced.refl other
  have outcome := extract_same start otherStart stopsZero (congrArg _ first) .missingProvider code
  have after := extract_advanced start .missingProvider code
  have otherAfter := extract_advanced otherStart .missingProvider code
  rw [List.length_nil, ← stopsZero] at otherAfter
  unfold run
  cases marker.strip code with
  | some removal => rfl
  | none =>
      unfold add
      generalize extract tools .missingProvider code session = result at outcome after
      generalize extract tools .missingProvider code other = otherResult at outcome otherAfter
      obtain ⟨extracted, state⟩ := result
      obtain ⟨otherExtracted, otherState⟩ := otherResult
      obtain rfl : extracted = otherExtracted := outcome
      cases extracted with
      | error failure => rfl
      | ok missing =>
          dsimp only
          split
          · rfl
          · apply add_usages_same
            refine extract_same (note_commented_advanced after _)
              (note_commented_advanced otherAfter _) ?_ ?_ _ _
            · split
              · exact stopsZero
              · exact stopsOne
            · split
              · exact congrArg _ first
              · exact second

end

/-- What holds of a toggle whose token can be cancelled at any moment. -/
structure Interruptible (marker : Marker) (code : Bytes) (session : Session Cause) : Prop where
  noLateBuild : ∃ made,
    (run tools marker code session).2.builds = session.builds ++ made ∧ made.length ≤ 2 ∧
      (0 < made.length → session.cancelled = false) ∧
      (1 < made.length → (session.ahead 0).cancels = false)
  calledCancelled : session.cancelled = true →
    (run tools marker code session).1 =
      .ok (((marker.strip code).map Marker.Removal.code).getD code)
  /-- The request comes while the first build of code without usages runs. -/
  cancelledMidway : session.cancelled = false → marker.strip code = none →
    (session.ahead 0).cancels = true →
      (run tools marker code session).2.builds = session.builds ++ [code] ∧
      match (session.ahead 0).outcome with
      | .error cause => (run tools marker code session).1 = .error (.build cause)
      | .ok report =>
          (report.Unusable .missingProvider (ofCode code).length ∧
            ∃ problem, (run tools marker code session).1 = .error (.diagnostic problem)) ∨
          (¬ report.Unusable .missingProvider (ofCode code).length ∧
            (run tools marker code session).1 = .ok code)
  /-- Another session in which the second build may be cancelled where it is not in this one. -/
  cancelledLate : ∀ other : Session Cause, other.heeding = session.heeding →
    other.cancelled = session.cancelled → other.ahead 0 = session.ahead 0 →
    (other.ahead 1).outcome = (session.ahead 1).outcome →
      (run tools marker code other).1 = (run tools marker code session).1
  /-- A result is the code without its usages, the code as it was, or the code with the usages of a
  second report on its own lines. -/
  whole : ∀ result, (run tools marker code session).1 = .ok result →
    (∃ removal, marker.strip code = some removal ∧ result = removal.code) ∨ result = code ∨
      ∃ report, (session.ahead 1).outcome = .ok report ∧
        ¬ report.Unusable .unused (ofCode code).length ∧
        result = toCode (usedLines marker report code)

variable {marker : Marker} {code : Bytes} {session : Session Cause}
  {outcome : Except (Failure Cause) Bytes} {made : List Bytes}

theorem Course.called_cancelled (course : Course marker code session outcome made)
    (stopped : session.stopsAfter 0 = true) :
    outcome = .ok (((marker.strip code).map Marker.Removal.code).getD code) := by
  cases course with
  | stripped removal found => rw [found, Option.map_some, Option.getD_some]
  | unstarted clean _ => rw [clean, Option.map_none, Option.getD_none]
  | broken _ going _ _ => exact absurd (stopped.symm.trans going) (by decide)
  | rejected _ going _ _ _ _ _ => exact absurd (stopped.symm.trans going) (by decide)
  | hidden _ going _ _ _ _ => exact absurd (stopped.symm.trans going) (by decide)

theorem Course.cancelled_midway (course : Course marker code session outcome made)
    (clean : marker.strip code = none) (going : session.stopsAfter 0 = false)
    (stopped : session.stopsAfter 1 = true) :
    made = [code] ∧
      match (session.ahead 0).outcome with
      | .error cause => outcome = .error (.build cause)
      | .ok report =>
          (report.Unusable .missingProvider (ofCode code).length ∧
            ∃ problem, outcome = .error (.diagnostic problem)) ∨
          (¬ report.Unusable .missingProvider (ofCode code).length ∧ outcome = .ok code) := by
  cases course with
  | stripped removal found => rw [clean] at found; cases found
  | unstarted _ cancelled => exact absurd (cancelled.symm.trans going) (by decide)
  | broken _ _ cause raised =>
      rw [raised]
      exact ⟨rfl, rfl⟩
  | rejected _ _ report reported unusable problem _ =>
      rw [reported]
      exact ⟨rfl, Or.inl ⟨unusable, problem, rfl⟩⟩
  | hidden _ _ report reported usable second =>
      obtain ⟨unchanged, unbuilt⟩ := second.of_cancelled stopped
      rw [reported]
      exact ⟨unbuilt, Or.inr ⟨usable, unchanged⟩⟩

theorem Course.whole {result : Bytes} (course : Course marker code session (.ok result) made) :
    (∃ removal, marker.strip code = some removal ∧ result = removal.code) ∨ result = code ∨
      ∃ report, (session.ahead 1).outcome = .ok report ∧
        ¬ report.Unusable .unused (ofCode code).length ∧
        result = toCode (usedLines marker report code) := by
  cases course with
  | stripped removal found => exact Or.inl ⟨removal, found, rfl⟩
  | unstarted _ _ => exact Or.inr (Or.inl rfl)
  | hidden _ _ _ _ _ second =>
      cases second with
      | skipped _ => exact Or.inr (Or.inl rfl)
      | added _ report reported usable => exact Or.inr (Or.inr ⟨report, reported, usable, rfl⟩)

theorem interruptible (marker : Marker) (code : Bytes) (session : Session Cause)
    (heeding : session.heeding = true) : Interruptible marker code session := by
  obtain ⟨made, course, advanced⟩ := run_course marker code session
  have account := course.account
  have stopsZero := session.stops_zero
  have stopsOne := session.stops_one
  rw [heeding, Bool.true_and] at stopsZero stopsOne
  constructor
  case noLateBuild =>
    refine ⟨made, advanced.builds, account.atMostTwo, ?_, ?_⟩
    · intro built
      exact stopsZero ▸ (account.firstBuilt.mp built).2
    · intro builtAgain
      have two : made.length = 2 := by have := account.atMostTwo; omega
      have going := (account.secondBuilt.mp two).2.1
      rw [stopsOne, Bool.or_eq_false_iff] at going
      exact going.2
  case calledCancelled =>
    intro cancelled
    exact course.called_cancelled (stopsZero.trans cancelled)
  case cancelledMidway =>
    intro going clean cancels
    obtain ⟨once, ended⟩ := course.cancelled_midway clean (stopsZero.trans going)
      (by rw [stopsOne, cancels, Bool.or_true])
    exact ⟨once ▸ advanced.builds, ended⟩
  case cancelledLate =>
    intro other sameHeeding sameToken sameFirst sameSecond
    exact run_same marker code sameHeeding sameToken sameFirst sameSecond
  case whole =>
    intro result returned
    rw [returned] at course
    exact course.whole

end Toggle

/-- On one token, after any calls and whatever the builds do to it: a toggle can be interrupted at
every moment, and once the token is cancelled it stays so and no call starts a build. -/
theorem cancellation_is_safe (script : List (ScriptedBuild Cause)) (earlier : List Call) :
    let session := (Session.start script true).performAll earlier
    (∀ marker code, Toggle.Interruptible marker code session) ∧
      (session.cancelled = true → ∀ later,
        (session.performAll later).cancelled = true ∧
          (session.performAll later).builds = session.builds) := by
  intro session
  have heeding : session.heeding = true := Session.perform_all_heeding _ earlier
  refine ⟨fun marker code => Toggle.interruptible marker code session heeding, ?_⟩
  intro cancelled later
  exact Session.perform_all_cancelled heeding cancelled later

/-- The request comes while the first build runs, which names a line to comment out. -/
theorem cancellation_is_safe_midway :
    let marker : Marker := ⟨['g', 'o', 'u', 's', 'e']⟩
    let code := Marker.ascii ['q', '\n', 'v']
    let fresh : Session Unit := .start [⟨.ok ⟨false,
      "a.go:1:8: no required module provides package q".toList⟩, true⟩] true
    let session := fresh.performAll [.toggle marker code]
    (Toggle.run Session.tools marker code fresh).1 = .ok code ∧ session.builds = [code] ∧
      ∀ later, (session.performAll later).builds = [code] := by
  intro marker code fresh session
  have cancelled : session.cancelled = true := by rfl
  refine ⟨by rfl, by rfl, fun later => ?_⟩
  exact ((cancellation_is_safe _ _).2 cancelled later).2

end BlankUse
