import BlankUse.Proofs.LineByLine
import BlankUse.Proofs.OwnLine

/-!
Removing again and again. What a removal takes out may bring the parts of another usage together, so
one removal need not be the last. Each of them takes at least an `_`, an `=`, a space and a closing,
and so there is an end to it. In the appended form one removal is enough: a cut line has no opening
before the cut and no closing behind it, so whatever comes together at the cut is no match.
-/

namespace BlankUse.Marker

open Byte LineBuffer

/-- The code after some removals in a row, if there was something to remove each time. -/
def stripTimes (marker : Marker) : Nat → Bytes → Option Bytes
  | 0, code => some code
  | times + 1, code =>
    match marker.strip code with
    | none => none
    | some removal => stripTimes marker times removal.code

variable {marker : Marker}

/-! Every removal takes something. -/

theorem appended_room (code : Bytes) (width : Nat) (found : marker.appended code = some width) :
    marker.closing.length + 3 ≤ width := by
  simp only [appended] at found
  split at found
  · have size : opening.length = 5 := rfl
    rcases last_closing_bounds _ _ _ _ _ found with impossible | bounds
    · cases impossible
    · omega
  · cases found

theorem own_line_room (code : Bytes) (width : Nat) (found : marker.ownLine code = some width) :
    marker.closing.length + 3 ≤ width := by
  obtain ⟨runs, rest, -, rfl⟩ := usage_of_own_line marker found
  simp only [Runs.usage, List.length_append, List.length_cons]
  omega

theorem strip_count_pos {code : Bytes} {removal : Removal}
    (stripped : marker.strip code = some removal) : 0 < removal.count := by
  by_contra uncounted
  rcases strip_cases stripped with ⟨counted, rfl⟩ | ⟨unappended, rfl⟩
  · exact uncounted (Nat.pos_of_ne_zero counted)
  · have nothing := (strip_eq_none_iff marker code).mpr ⟨unappended, Nat.eq_zero_of_not_pos uncounted⟩
    rw [nothing] at stripped
    cases stripped

theorem strip_shortens {code : Bytes} {removal : Removal}
    (stripped : marker.strip code = some removal) :
    removal.code.length + removal.count * (marker.closing.length + 3) ≤ code.length := by
  rcases strip_cases stripped with ⟨-, rfl⟩ | ⟨-, rfl⟩
  · exact Pattern.delete_all_shortens marker.appended_proper appended_room code
  · exact Pattern.delete_all_shortens (own_line_proper marker) own_line_room code

theorem strip_sublist {code : Bytes} {removal : Removal}
    (stripped : marker.strip code = some removal) : removal.code.Sublist code := by
  rcases strip_cases stripped with ⟨-, rfl⟩ | ⟨-, rfl⟩
  · exact Pattern.delete_all_sublist marker.appended_proper code
  · exact Pattern.delete_all_sublist (own_line_proper marker) code

theorem strip_shorter {code : Bytes} {removal : Removal}
    (stripped : marker.strip code = some removal) :
    removal.code.length + (marker.closing.length + 3) ≤ code.length := by
  have shorter := strip_shortens stripped
  have once := Nat.le_mul_of_pos_left (marker.closing.length + 3) (strip_count_pos stripped)
  omega

theorem strip_times_eq_none (times : Nat) (code : Bytes)
    (short : code.length < times * (marker.closing.length + 3)) :
    marker.stripTimes times code = none := by
  induction times generalizing code with
  | zero => simp at short
  | succ times ih =>
      rw [stripTimes]
      cases stripped : marker.strip code with
      | none => rfl
      | some removal =>
          apply ih
          have shorter := strip_shorter stripped
          rw [Nat.add_mul] at short
          omega

/-! A removal in the appended form leaves nothing of that form. -/

theorem not_encloses_ends {line before inside after : Bytes}
    (taken : marker.Taken line before inside after) : ¬ marker.Encloses (before ++ after) := by
  rintro ⟨front, middle, back, joined⟩
  have shape := taken.shape
  -- An opening that ends before the cut would be an earlier opening of the line.
  have late : before.length < (front ++ opening).length := by
    by_contra early
    have starts : front ++ opening <+: before ++ after :=
      ⟨middle ++ marker.closing ++ back, by simp [joined]⟩
    obtain ⟨gap, rfl⟩ : front ++ opening <+: before :=
      List.prefix_of_prefix_length_le starts (List.prefix_append before after) (by omega)
    have first := taken.first front (gap ++ (opening ++ inside ++ marker.closing) ++ after)
      (by simp [shape])
    have size : opening.length = 5 := rfl
    simp only [List.length_append] at first
    omega
  -- So the closing stands behind the cut, where the line has none.
  have ends : marker.closing ++ back <:+ before ++ after :=
    ⟨front ++ (opening ++ middle), by simp [joined]⟩
  obtain ⟨gap, closed⟩ : marker.closing ++ back <:+ after := by
    apply List.suffix_of_suffix_length_le ends (List.suffix_append before after)
    have sizes := congrArg List.length joined
    simp only [List.length_append] at sizes late ⊢
    omega
  have last := taken.last (before ++ (opening ++ inside ++ marker.closing) ++ gap) back
    (by simp [shape, ← closed])
  have positive := List.length_pos_iff.mpr marker.closing_ne_nil
  have sizes := congrArg List.length closed
  simp only [List.length_append] at sizes
  omega

theorem not_encloses_kept (marker : Marker) (line : Bytes) :
    ¬ marker.Encloses (marker.keptOf line) := by
  generalize same : marker.keptOf line = kept
  have left := left_of_kept marker line
  rw [same] at left
  cases left with
  | ends taken => exact not_encloses_ends taken
  | whole unclosed => exact unclosed

theorem appended_quiet_deleted (closingFree : newline ∉ marker.closing) (code : Bytes) :
    Pattern.Quiet marker.appended (Pattern.deleteAll marker.appended code).bytes := by
  rw [appended_quiet_iff closingFree, delete_appended closingFree, of_code_kept]
  intro kept member
  obtain ⟨line, -, rfl⟩ := List.mem_map.mp member
  exact cut_eq_none_iff.mpr (not_encloses_kept marker line)

theorem appended_quiet_stripped (closingFree : newline ∉ marker.closing) {code : Bytes}
    {removal : Removal} (stripped : marker.strip code = some removal)
    (form : removal.form = .appended) : Pattern.Quiet marker.appended removal.code := by
  rcases strip_cases stripped with ⟨-, rfl⟩ | ⟨-, rfl⟩
  · exact appended_quiet_deleted closingFree code
  · cases form

theorem form_of_quiet {code : Bytes} (quiet : Pattern.Quiet marker.appended code) {removal : Removal}
    (stripped : marker.strip code = some removal) : removal.form = .ownLine := by
  rcases strip_cases stripped with ⟨counted, rfl⟩ | ⟨-, rfl⟩
  · have uncounted := (Pattern.delete_all_count_eq_zero marker.appended_proper code).mpr quiet
    exact absurd uncounted counted
  · rfl

/-- Removing again and again comes to an end. Each removal leaves the code shorter by at least three
bytes and a closing, takes bytes out and changes nothing else. After a removal in the appended form no
match of that form is left, so the next removal, if there is one, is in the other form. -/
theorem repeated_strip_ends (marker : Marker) (fits : '\n' ∉ marker.tool) (code : Bytes) :
    (∃ times ≤ code.length / (marker.closing.length + 3) + 1,
      marker.stripTimes times code = none) ∧
    ∀ removal, marker.strip code = some removal →
      removal.code.length + (marker.closing.length + 3) ≤ code.length ∧
      removal.code.Sublist code ∧
      (removal.form = .appended →
        Pattern.Quiet marker.appended removal.code ∧
          ∀ next, marker.strip removal.code = some next → next.form = .ownLine) := by
  constructor
  · refine ⟨_, Nat.le_refl _, strip_times_eq_none _ code ?_⟩
    exact Nat.lt_mul_of_div_lt (Nat.lt_succ_self _) (by omega)
  · intro removal stripped
    refine ⟨strip_shorter stripped, strip_sublist stripped, ?_⟩
    intro form
    have quiet := appended_quiet_stripped (closing_free_of_tool fits) stripped form
    exact ⟨quiet, fun next again => form_of_quiet quiet again⟩

/-- A line to cut, and behind it a usage between the parts of another one: three removals, of which
only the first is in the appended form. -/
theorem repeated_strip_ends_nested :
    let marker : Marker := ⟨['=']⟩
    let code := ascii "a; _ = x /* TODO: = */\n_ _ = b /* TODO: = */ = c /* TODO: = */".toList
    let left := ascii "a\n_ _ = b /* TODO: = */ = c /* TODO: = */".toList
    '\n' ∉ marker.tool ∧ marker.strip code = some ⟨.appended, 1, left⟩ ∧
      marker.stripTimes 3 code = some (ascii ['a']) ∧
      (∃ times ≤ 4, marker.stripTimes times code = none) ∧
      Pattern.Quiet marker.appended left ∧
      ∀ next, marker.strip left = some next → next.form = .ownLine := by
  intro marker code left
  have fits : '\n' ∉ marker.tool := by decide
  have stripped : marker.strip code = some ⟨.appended, 1, left⟩ := by decide
  have bound : code.length / (marker.closing.length + 3) + 1 = 4 := by decide
  obtain ⟨finished, each⟩ := repeated_strip_ends marker fits code
  rw [bound] at finished
  obtain ⟨quiet, other⟩ := (each _ stripped).2.2 rfl
  exact ⟨fits, stripped, by decide, finished, quiet, other⟩

end BlankUse.Marker
