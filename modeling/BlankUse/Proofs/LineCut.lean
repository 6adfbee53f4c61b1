import BlankUse.Proofs.Deletion
import BlankUse.Proofs.Lines
import BlankUse.Proofs.Occurrence

/-!
Removing appended usages, line by line. The removal is one scan over the whole code that starts
again behind each match. It comes to the same as cutting every line on its own, from its first `; _
=` through the last closing behind that, because neither the opening nor the closing holds a line
feed.
-/

namespace BlankUse.Marker

open Byte LineBuffer

/-- A line without what stands from its first opening through the last closing behind that. -/
def cut? (marker : Marker) (line : Bytes) : Option Bytes := do
  let (before, behind) ← line.dropInfix? opening
  let after ← afterLast marker.closing behind
  return before ++ after

def keptOf (marker : Marker) (line : Bytes) : Bytes := (marker.cut? line).getD line

theorem cut_eq_none {marker : Marker} {line : Bytes} (absent : ¬ opening <:+: line) :
    marker.cut? line = none := by
  simp [cut?, drop_infix_eq_none.mpr absent]

theorem cut_eq_some {marker : Marker} {line kept : Bytes} :
    marker.cut? line = some kept ↔
      ∃ before behind after, line.dropInfix? opening = some (before, behind) ∧
        afterLast marker.closing behind = some after ∧ before ++ after = kept := by
  simp [cut?, Option.bind_eq_some_iff]

structure Taken (marker : Marker) (line before inside after : Bytes) : Prop where
  shape : line = before ++ (opening ++ inside ++ marker.closing) ++ after
  first : ∀ front back, line = front ++ opening ++ back → before.length ≤ front.length
  last : ∀ front back, line = front ++ marker.closing ++ back → after.length ≤ back.length

variable {marker : Marker} {closing text front back line : Bytes}

theorem taken_of_cut {kept : Bytes} (cut : marker.cut? line = some kept) :
    ∃ before inside after, marker.Taken line before inside after ∧ kept = before ++ after := by
  obtain ⟨before, behind, after, opens, closes, rfl⟩ := cut_eq_some.mp cut
  obtain ⟨rfl, first⟩ := drop_infix_eq_some.mp opens
  obtain ⟨⟨inside, rfl⟩, last⟩ := after_last_eq_some.mp closes
  refine ⟨before, inside, after, ⟨by simp, first, ?_⟩, rfl⟩
  intro front back shape
  by_contra shorter
  -- A closing with less behind it lies behind the opening as well.
  have inner : marker.closing ++ back <:+
      before ++ opening ++ (inside ++ marker.closing ++ after) := ⟨front, by rw [shape, List.append_assoc]⟩
  have outer : inside ++ marker.closing ++ after <:+
      before ++ opening ++ (inside ++ marker.closing ++ after) := List.suffix_append _ _
  obtain ⟨ahead, within⟩ := List.suffix_of_suffix_length_le inner outer (by
    simp only [List.length_append]
    omega)
  exact shorter (last ahead back (by simp [← within]))

theorem cut_of_taken {before inside after : Bytes}
    (taken : marker.Taken line before inside after) :
    marker.cut? line = some (before ++ after) := by
  refine cut_eq_some.mpr ⟨before, inside ++ marker.closing ++ after, after, ?_, ?_, rfl⟩
  · exact drop_infix_eq_some.mpr ⟨by simp [taken.shape], taken.first⟩
  · refine after_last_eq_some.mpr ⟨⟨inside, rfl⟩, ?_⟩
    intro front back shape
    exact taken.last (before ++ opening ++ front) back (by simp [taken.shape, shape])

theorem kept_of_free (free : newline ∉ line) : newline ∉ marker.keptOf line := by
  cases cut : marker.cut? line with
  | none => simpa [keptOf, cut] using free
  | some kept =>
      obtain ⟨before, inside, after, taken, rfl⟩ := taken_of_cut cut
      rw [taken.shape] at free
      simp only [keptOf, cut, Option.getD_some, List.mem_append, not_or] at free ⊢
      exact ⟨free.1.1, free.2⟩

/-- What follows a line: nothing, or a line feed and more. -/
def EndsLine (back : Bytes) : Prop := ∀ byte ∈ back.head?, byte = newline

theorem prefix_of_prefix_line (nonempty : text ≠ []) (free : newline ∉ front) (ends : EndsLine back)
    (found : front <+: text ++ back) : front <+: text := by
  apply prefix_of_prefix_append nonempty _ found
  intro byte first inside
  rw [ends byte first] at inside
  exact free (List.mem_of_mem_tail inside)

theorem opening_free : newline ∉ opening := by decide

theorem opening_head_once : ∀ byte ∈ opening.head?, byte ∉ opening.tail := by
  intro byte first
  obtain rfl : semicolon = byte := by simpa [opening] using first
  decide

theorem opening_not_prefix_newline (rest : Bytes) : ¬ opening <+: newline :: rest := by
  rintro ⟨tail, shape⟩
  exact absurd (List.cons_eq_cons.mp shape).1 (by decide)

/-! The search for the last closing. -/

theorem last_closing_of_absent (nonempty : closing ≠ []) (closingFree : newline ∉ closing)
    (free : newline ∉ text) (ends : EndsLine back) (absent : ¬ closing <:+: text)
    (offset : Nat) (found : Option Nat) :
    lastClosing closing offset found (text ++ back) = found := by
  induction text generalizing offset with
  | nil =>
      cases back with
      | nil => rfl
      | cons byte back =>
          obtain rfl : byte = newline := ends byte (by simp)
          have missing : ¬ closing <+: newline :: back := by
            rintro ⟨rest, shape⟩
            obtain ⟨first, tail, rfl⟩ := List.exists_cons_of_ne_nil nonempty
            have same := (List.cons_eq_cons.mp shape).1
            exact closingFree (by simp [same])
          simp [lastClosing, List.isPrefixOf_iff_prefix, missing]
  | cons byte text ih =>
      rw [List.infix_cons_iff, not_or] at absent
      rw [List.mem_cons, not_or] at free
      have missing : ¬ closing <+: byte :: (text ++ back) := fun starts =>
        absent.1 (prefix_of_prefix_line (List.cons_ne_nil byte text) closingFree ends starts)
      have inside : byte ≠ newline := fun same => free.1 same.symm
      simpa [lastClosing, List.isPrefixOf_iff_prefix, missing, inside] using
        ih free.2 absent.2 (offset + 1)

theorem last_closing_of_present {before after : Bytes} (nonempty : closing ≠ [])
    (closingFree : newline ∉ closing) (free : newline ∉ before ++ closing ++ after)
    (ends : EndsLine back)
    (last : ∀ front rest, before ++ closing ++ after = front ++ closing ++ rest →
      after.length ≤ rest.length) (offset : Nat) (found : Option Nat) :
    lastClosing closing offset found (before ++ closing ++ after ++ back) =
      some (offset + before.length + closing.length) := by
  induction before generalizing offset found with
  | nil =>
      obtain ⟨first, tail, rfl⟩ := List.exists_cons_of_ne_nil nonempty
      have inside : first ≠ newline := by
        rintro rfl
        simp at closingFree
      -- A closing that starts behind this one would be followed by less text.
      have absent : ¬ first :: tail <:+: tail ++ after := by
        rintro ⟨gap, rest, shape⟩
        have shorter := last (first :: gap) rest (by simp [← shape])
        have sizes := congrArg List.length shape
        simp only [List.length_append, List.length_cons] at sizes
        omega
      have later := last_closing_of_absent (by simp) closingFree
        (by simp at free ⊢; tauto) ends absent (offset + 1) (some (offset + (tail.length + 1)))
      have starts : first :: tail <+: first :: (tail ++ after ++ back) := ⟨after ++ back, by simp⟩
      simpa [lastClosing, List.isPrefixOf_iff_prefix, starts, inside] using later
  | cons byte before ih =>
      simp only [List.cons_append, List.mem_cons, not_or] at free
      have inside : byte ≠ newline := fun same => free.1 same.symm
      have later := ih free.2 fun front rest shape =>
        last (byte :: front) rest (by simp [shape])
      simp only [List.cons_append, lastClosing, beq_iff_eq, inside, if_false, later]
      simp
      omega

theorem last_closing_bounds (closing : Bytes) (offset width : Nat) (found : Option Nat)
    (code : Bytes) (result : lastClosing closing offset found code = some width) :
    found = some width ∨ offset + closing.length ≤ width ∧ width ≤ offset + code.length := by
  induction code generalizing offset found with
  | nil => exact Or.inl result
  | cons byte rest ih =>
      have started : (if closing.isPrefixOf (byte :: rest) then some (offset + closing.length)
          else found) = some width →
          found = some width ∨
            offset + closing.length ≤ width ∧ width ≤ offset + (byte :: rest).length := by
        intro here
        split at here
        · next starts =>
          have fits := (List.isPrefixOf_iff_prefix.mp starts).length_le
          right
          cases here
          omega
        · exact Or.inl here
      simp only [lastClosing] at result
      split at result
      · exact started result
      · rcases ih _ _ result with here | later
        · exact started here
        · right
          simp only [List.length_cons]
          omega

theorem appended_proper (marker : Marker) : Pattern.Proper marker.appended := by
  intro code width found
  simp only [appended] at found
  split at found
  · next starts =>
    have fits := (List.isPrefixOf_iff_prefix.mp starts).length_le
    have size : opening.length = 5 := rfl
    rcases last_closing_bounds _ _ _ _ _ found with impossible | bounds
    · cases impossible
    · rw [List.length_drop] at bounds
      omega
  · cases found

/-! A match of the whole form within a line. -/

theorem closing_ne_nil (marker : Marker) : marker.closing ≠ [] := by simp [Marker.closing]

theorem appended_eq_none (nonempty : line ≠ []) (closingFree : newline ∉ marker.closing)
    (free : newline ∉ line) (ends : EndsLine back)
    (absent : ∀ behind, line = opening ++ behind → ¬ marker.closing <:+: behind) :
    marker.appended (line ++ back) = none := by
  simp only [appended, List.isPrefixOf_iff_prefix]
  split
  · next starts =>
    obtain ⟨behind, rfl⟩ := prefix_of_prefix_line nonempty opening_free ends starts
    have missing := absent behind rfl
    rw [List.append_assoc, List.drop_left]
    exact last_closing_of_absent marker.closing_ne_nil closingFree
      (fun inside => free (by simp [inside])) ends missing _ _
  · rfl

theorem appended_eq_some {behind after : Bytes} (closingFree : newline ∉ marker.closing)
    (free : newline ∉ behind) (ends : EndsLine back)
    (found : afterLast marker.closing behind = some after) :
    ∃ width, marker.appended (opening ++ behind ++ back) = some width ∧
      (opening ++ behind ++ back).drop width = after ++ back := by
  obtain ⟨⟨before, rfl⟩, last⟩ := after_last_eq_some.mp found
  refine ⟨opening.length + before.length + marker.closing.length, ?_, ?_⟩
  · have starts : opening <+: opening ++ (before ++ marker.closing ++ after) ++ back :=
      ⟨before ++ marker.closing ++ after ++ back, by simp⟩
    simp only [appended, List.isPrefixOf_iff_prefix, if_pos starts]
    rw [List.append_assoc, List.drop_left]
    exact last_closing_of_present marker.closing_ne_nil closingFree free ends last _ _
  · have shape : opening ++ (before ++ marker.closing ++ after) ++ back =
        (opening ++ before ++ marker.closing) ++ (after ++ back) := by simp
    have size : (opening ++ before ++ marker.closing).length =
        opening.length + before.length + marker.closing.length := by
      simp only [List.length_append]
    rw [shape, ← size, List.drop_left]

theorem no_match_of_uncut (closingFree : newline ∉ marker.closing) (free : newline ∉ line)
    (ends : EndsLine back) (uncut : marker.cut? line = none) (rest : Bytes) (nonempty : rest ≠ [])
    (suffix : rest <:+ line) : marker.appended (rest ++ back) = none := by
  have restFree : newline ∉ rest := fun inside => free (suffix.subset inside)
  apply appended_eq_none nonempty closingFree restFree ends
  rintro behind rfl closes
  obtain ⟨ahead, rfl⟩ := suffix
  cases found : (ahead ++ (opening ++ behind)).dropInfix? opening with
  | none => exact drop_infix_eq_none.mp found ⟨ahead, behind, by simp⟩
  | some parts =>
      obtain ⟨before, later⟩ := parts
      obtain ⟨shape, least⟩ := drop_infix_eq_some.mp found
      have missing : afterLast marker.closing later = none := by
        rw [Option.eq_none_iff_forall_ne_some]
        simpa [cut?, found] using uncut
      have shorter := least ahead behind (by simp)
      -- The first opening is not behind this one, so its rest holds the rest of this one.
      have within : behind <:+ later := by
        have inner : behind <:+ ahead ++ (opening ++ behind) := ⟨ahead ++ opening, by simp⟩
        have outer : later <:+ ahead ++ (opening ++ behind) := shape ▸ List.suffix_append _ _
        apply List.suffix_of_suffix_length_le inner outer
        have sizes := congrArg List.length shape
        simp only [List.length_append] at sizes
        omega
      exact after_last_eq_none.mp missing (closes.trans within.isInfix)

theorem delete_cut_line {before behind after : Bytes} (closingFree : newline ∉ marker.closing)
    (free : newline ∉ before ++ opening ++ behind) (ends : EndsLine back)
    (opens : (before ++ opening ++ behind).dropInfix? opening = some (before, behind))
    (closes : afterLast marker.closing behind = some after) :
    Pattern.deleteAll marker.appended (before ++ opening ++ behind ++ back) =
      ⟨before ++ after ++ (Pattern.deleteAll marker.appended back).bytes,
        (Pattern.deleteAll marker.appended back).count + 1⟩ := by
  have behindFree : newline ∉ behind := fun inside => free (by simp [inside])
  obtain ⟨width, matched, remaining⟩ := appended_eq_some closingFree behindFree ends closes
  have early : ∀ rest, rest ≠ [] → rest <:+ before →
      marker.appended (rest ++ (opening ++ behind ++ back)) = none := by
    rintro rest nonempty ⟨ahead, rfl⟩
    have restFree : newline ∉ rest ++ (opening ++ behind) := fun inside =>
      free (by simp at inside ⊢; tauto)
    rw [← List.append_assoc]
    apply appended_eq_none (by simp [nonempty]) closingFree restFree ends
    intro other shape
    have shorter := (drop_infix_eq_some.mp opens).2 ahead other (by simp [← shape])
    have size := List.length_pos_iff.mpr nonempty
    rw [List.length_append] at shorter
    omega
  have late : ∀ rest, rest ≠ [] → rest <:+ after → marker.appended (rest ++ back) = none := by
    intro rest nonempty suffix
    obtain ⟨⟨gap, shape⟩, -⟩ := after_last_eq_some.mp closes
    have restFree : newline ∉ rest := fun inside =>
      behindFree (by simp [shape, suffix.subset inside])
    apply appended_eq_none nonempty closingFree restFree ends
    rintro other rfl again
    apply after_last_absent marker.closing_ne_nil closes
    exact again.trans ((List.suffix_append opening other).trans suffix).isInfix
  rw [List.append_assoc, List.append_assoc, ← List.append_assoc opening,
    Pattern.delete_all_append early, Pattern.delete_all_of_match marker.appended_proper matched,
    remaining, Pattern.delete_all_append late]
  simp

/-- A line and what follows it: the line is cut, and the search goes on behind it. -/
theorem delete_line (closingFree : newline ∉ marker.closing) (free : newline ∉ line)
    (ends : EndsLine back) :
    Pattern.deleteAll marker.appended (line ++ back) =
      ⟨marker.keptOf line ++ (Pattern.deleteAll marker.appended back).bytes,
        (Pattern.deleteAll marker.appended back).count +
          if (marker.cut? line).isSome then 1 else 0⟩ := by
  cases cut : marker.cut? line with
  | none =>
      rw [Pattern.delete_all_append (no_match_of_uncut closingFree free ends cut)]
      simp [keptOf, cut]
  | some kept =>
      obtain ⟨before, behind, after, opens, closes, rfl⟩ := cut_eq_some.mp cut
      obtain ⟨rfl, -⟩ := drop_infix_eq_some.mp opens
      rw [delete_cut_line closingFree free ends opens closes, keptOf, cut]
      simp

theorem ends_line_flat_map (lines : List Bytes) : EndsLine (lines.flatMap (newline :: ·)) := by
  intro byte first
  cases lines with
  | nil => simp at first
  | cons line rest =>
      simp at first
      exact first.symm

theorem delete_later_lines (closingFree : newline ∉ marker.closing) (lines : List Bytes)
    (free : ∀ line ∈ lines, newline ∉ line) :
    Pattern.deleteAll marker.appended (lines.flatMap (newline :: ·)) =
      ⟨(lines.map marker.keptOf).flatMap (newline :: ·),
        lines.countP fun line => (marker.cut? line).isSome⟩ := by
  induction lines with
  | nil => rfl
  | cons line rest ih =>
      have tail := ih fun other member => free other (by simp [member])
      have missing : marker.appended (newline :: (line ++ rest.flatMap (newline :: ·))) = none := by
        simp [appended, List.isPrefixOf_iff_prefix, opening_not_prefix_newline]
      rw [List.flatMap_cons, List.cons_append, Pattern.delete_all_of_no_match missing,
        delete_line closingFree (free line (by simp)) (ends_line_flat_map rest), tail]
      simp [List.countP_cons]

/-- Removing the appended usages of code cuts each of its lines. -/
theorem delete_appended (closingFree : newline ∉ marker.closing) (code : Bytes) :
    Pattern.deleteAll marker.appended code =
      ⟨toCode ((ofCode code).map marker.keptOf),
        (ofCode code).countP fun line => (marker.cut? line).isSome⟩ := by
  obtain ⟨line, rest, lines⟩ := List.exists_cons_of_ne_nil (of_code_ne_nil code)
  have free := of_code_newline_free code
  rw [lines] at free
  conv => lhs; rw [← to_code_of_code code]
  rw [lines, List.map_cons, to_code_cons, to_code_cons,
    delete_line closingFree (free line (by simp)) (ends_line_flat_map rest),
    delete_later_lines closingFree rest fun other member => free other (by simp [member])]
  simp [List.countP_cons]

theorem appended_quiet_iff (closingFree : newline ∉ marker.closing) (code : Bytes) :
    Pattern.Quiet marker.appended code ↔ ∀ line ∈ ofCode code, marker.cut? line = none := by
  rw [← Pattern.delete_all_count_eq_zero marker.appended_proper, delete_appended closingFree]
  simp [List.countP_eq_zero]

end BlankUse.Marker
