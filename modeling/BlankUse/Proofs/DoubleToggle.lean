import BlankUse.Proofs.AddingToggle

/-!
Toggling twice. The second toggle finds the usages that the first one added and takes them away
without a build. It finds them by their `; _ =` and takes the rest of the line's body from there, so
it brings back every line but those on which `; _ =` stood before: a discard of the author's own on
such a line is lost.
-/

namespace BlankUse.Toggle

open LineBuffer

variable {Cause : Type} {marker : Marker} {code : Bytes}

theorem run_of_strip {removal : Marker.Removal} (stripped : marker.strip code = some removal)
    (session : Session Cause) :
    run Session.tools marker code session =
      (.ok removal.code, session.note (.info removal.message)) := by
  rw [run, stripped]
  rfl

theorem used_line_of_symbol {report : Report} (reported : report.symbols .unused ≠ [])
    (inside : ∀ symbol ∈ report.symbols .unused, Inside (ofCode code) (symbol.number - 1)) :
    ∃ index < (ofCode code).length, report.unusedOn (index + 1) ≠ [] := by
  obtain ⟨symbol, member⟩ := List.exists_mem_of_ne_nil _ reported
  obtain ⟨index, bounded, atLine⟩ := (inside_iff _ _).mp (inside symbol member)
  refine ⟨index, bounded, ?_⟩
  have named : symbol.name ∈ report.unusedOn (index + 1) := by
    apply List.mem_map_of_mem
    rw [List.mem_filter]
    exact ⟨member, by simp; omega⟩
  exact List.ne_nil_of_mem named

/-- Toggling code twice, when it had nothing to remove. If no unused variable was reported, the code
is as it was after the first toggle. Otherwise the second toggle starts no build, keeps the lines,
and restores the code exactly when no line that got a usage held `; _ =` before. -/
theorem toggle_twice (environment : Environment) (data : Data) (settings : Settings)
    (accepted : (Settings.ofData environment data).outcome = .ok settings) (code toggled : Bytes)
    (clean : Marker.strip ⟨settings.toolName⟩ code = none) (session : Session Cause)
    (first second : Report) (answers : session.Answers first second)
    (returned : (run Session.tools ⟨settings.toolName⟩ code session).1 = .ok toggled) :
    (second.symbols .unused = [] → toggled = code) ∧
    (second.symbols .unused ≠ [] → ∀ later : Session Cause, ∃ restored,
      (run Session.tools ⟨settings.toolName⟩ toggled later).1 = .ok restored ∧
      (run Session.tools ⟨settings.toolName⟩ toggled later).2.builds = later.builds ∧
      (ofCode restored).length = (ofCode code).length ∧
      (restored = code ↔ ∀ (index : Nat) (line : Bytes), (ofCode code)[index]? = some line →
        second.unusedOn (index + 1) ≠ [] → ¬ Marker.opening <:+: line)) := by
  have tool : Text.WordChars settings.toolName := Settings.accepted_tool_word accepted
  have closingFree : Byte.newline ∉ Marker.closing ⟨settings.toolName⟩ :=
    Marker.closing_newline_free tool
  obtain ⟨inside, rfl⟩ := run_ok clean answers returned
  constructor
  · intro unreported
    rw [used_lines_of_none unreported, to_code_of_code]
  · intro reported later
    obtain ⟨count, stripped⟩ := Marker.strip_with_usages closingFree code clean _
      (used_names_free tool second) (used_line_of_symbol reported inside)
    have again := run_of_strip stripped later
    refine ⟨_, congrArg Prod.fst again, ?_, ?_, ?_⟩
    · exact congrArg (fun outcome => outcome.2.builds) again
    · rw [Marker.of_code_remnants]
      simp [Marker.remnants]
    · exact Marker.to_code_remnants_eq_iff _ code

/-- A line with a discard of its own and an unused variable. -/
def discardLine : Session Unit :=
  .start [⟨.ok ⟨true, []⟩, false⟩,
    ⟨.ok ⟨false, "./a.go:1:1: declared and not used: v".toList⟩, false⟩] true

theorem toggle_twice_loses_discard :
    let code := Marker.ascii "v := 1; _ = w".toList
    let toggled := Marker.ascii "v := 1; _ = w; _ = v /* TODO: gouse */".toList
    Marker.strip ⟨Settings.default.toolName⟩ code = none ∧
      (run Session.tools ⟨Settings.default.toolName⟩ code discardLine).1 = .ok toggled ∧
      ∃ restored, (run Session.tools ⟨Settings.default.toolName⟩ toggled
        (.start [] true : Session Unit)).1 = .ok restored ∧ restored ≠ code := by
  intro code toggled
  have clean : Marker.strip ⟨Settings.default.toolName⟩ code = none := by decide
  have returned : (run Session.tools ⟨Settings.default.toolName⟩ code discardLine).1 =
      .ok toggled := by rfl
  have twice := toggle_twice [] ⟨#[.map []], .collection 0⟩ Settings.default (by rfl) code toggled
    clean discardLine _ _ ⟨false, false, [], rfl, fun _ => ⟨rfl, rfl⟩⟩ returned
  obtain ⟨restored, again, -, -, whole⟩ := twice.2 (by decide) (.start [] true)
  refine ⟨clean, returned, restored, again, ?_⟩
  intro same
  exact whole.mp same 0 code (by decide) (by decide) (by decide)

end BlankUse.Toggle
