import BlankUse.Deletion
import Mathlib.Data.List.Basic
import Mathlib.Data.List.Infix

/-!
What deleting every match does, without the accumulators of the scan. At the front of the code there
is either a match, which goes, or a byte that stays. Code in which no match starts is left alone,
and this is the only code of which nothing is deleted.
-/

namespace BlankUse.Pattern

def Proper (pattern : Pattern) : Prop :=
  ∀ code width, pattern code = some width → 0 < width ∧ width ≤ code.length

/-- No match starts anywhere in the code. -/
def Quiet (pattern : Pattern) (code : Bytes) : Prop :=
  ∀ rest, rest <:+ code → pattern rest = none

variable {pattern : Pattern}

theorem scan_accumulators (skip : Nat) (kept : Bytes) (count : Nat) (code : Bytes) :
    scan pattern skip kept count code =
      ⟨kept.reverse ++ (scan pattern skip [] 0 code).bytes,
        count + (scan pattern skip [] 0 code).count⟩ := by
  induction code generalizing skip kept count with
  | nil => simp [scan]
  | cons byte rest ih =>
      cases skip with
      | succ skip => simpa only [scan] using ih skip kept count
      | zero =>
          simp only [scan]
          split
          · next width _ =>
            rw [ih width kept (count + 1), ih width [] (0 + 1)]
            simp [Nat.add_assoc]
          · rw [ih 0 (byte :: kept) count, ih 0 [byte] 0]
            simp

theorem scan_skip (skip : Nat) (kept : Bytes) (count : Nat) (code : Bytes) :
    scan pattern skip kept count code = scan pattern 0 kept count (code.drop skip) := by
  induction code generalizing skip with
  | nil => simp [scan]
  | cons byte rest ih =>
      cases skip with
      | zero => rfl
      | succ skip => simpa only [scan, List.drop_succ_cons] using ih skip

theorem delete_all_of_match (proper : pattern.Proper) {code : Bytes} {width : Nat}
    (found : pattern code = some width) :
    pattern.deleteAll code =
      ⟨(pattern.deleteAll (code.drop width)).bytes,
        (pattern.deleteAll (code.drop width)).count + 1⟩ := by
  obtain ⟨positive, bounded⟩ := proper code width found
  obtain ⟨width, rfl⟩ := Nat.exists_eq_succ_of_ne_zero positive.ne'
  cases code with
  | nil => simp at bounded
  | cons byte rest =>
      simp only [deleteAll, scan, found, List.drop_succ_cons]
      rw [scan_accumulators, scan_skip]
      simp [Nat.add_comm]

theorem delete_all_of_no_match {byte : UInt8} {rest : Bytes}
    (missing : pattern (byte :: rest) = none) :
    pattern.deleteAll (byte :: rest) =
      ⟨byte :: (pattern.deleteAll rest).bytes, (pattern.deleteAll rest).count⟩ := by
  simp only [deleteAll, scan, missing]
  rw [scan_accumulators]
  simp

/-- What holds of the empty code, and still holds with a byte in front at which no match starts or with
a whole match in front, holds of every code. -/
theorem delete_all_induction (proper : pattern.Proper) {motive : Bytes → Deleted → Prop}
    (done : motive [] ⟨[], 0⟩)
    (stays : ∀ byte rest deleted, pattern (byte :: rest) = none → motive rest deleted →
      motive (byte :: rest) ⟨byte :: deleted.bytes, deleted.count⟩)
    (goes : ∀ piece rest deleted, pattern (piece ++ rest) = some piece.length →
      motive rest deleted → motive (piece ++ rest) ⟨deleted.bytes, deleted.count + 1⟩)
    (code : Bytes) : motive code (pattern.deleteAll code) := by
  -- The induction is on the length: a match takes several bytes at once.
  induction size : code.length using Nat.strongRecOn generalizing code with
  | ind length ih =>
      subst size
      cases found : pattern code with
      | some width =>
          obtain ⟨positive, bounded⟩ := proper code width found
          have later := ih (code.drop width).length (by rw [List.length_drop]; omega) _ rfl
          have whole := goes (code.take width) (code.drop width) _ (by
            rw [List.take_append_drop, found, List.length_take, Nat.min_eq_left bounded]) later
          rw [List.take_append_drop] at whole
          rwa [delete_all_of_match proper found]
      | none =>
          cases code with
          | nil => exact done
          | cons byte rest =>
              rw [delete_all_of_no_match found]
              exact stays byte rest _ found (ih rest.length (by simp) rest rfl)

/-- What is left is shorter by the least width of a match, as many times as matches are counted. -/
theorem delete_all_shortens (proper : pattern.Proper) {least : Nat}
    (wide : ∀ code width, pattern code = some width → least ≤ width) (code : Bytes) :
    (pattern.deleteAll code).bytes.length + (pattern.deleteAll code).count * least ≤
      code.length := by
  refine delete_all_induction proper (motive := fun code deleted =>
    deleted.bytes.length + deleted.count * least ≤ code.length) (by simp) ?_ ?_ code
  · intro byte rest deleted _ ih
    simp only [List.length_cons]
    omega
  · intro piece rest deleted matched ih
    have room := wide _ _ matched
    simp only [List.length_append, Nat.add_mul, Nat.one_mul]
    omega

theorem delete_all_sublist (proper : pattern.Proper) (code : Bytes) :
    (pattern.deleteAll code).bytes.Sublist code := by
  refine delete_all_induction proper (motive := fun code deleted => deleted.bytes.Sublist code)
    (List.Sublist.refl []) ?_ ?_ code
  · intro byte rest deleted _ ih
    exact ih.cons_cons byte
  · intro piece rest deleted _ ih
    exact ih.trans (List.sublist_append_right piece rest)

theorem delete_all_append {front back : Bytes}
    (missing : ∀ rest, rest ≠ [] → rest <:+ front → pattern (rest ++ back) = none) :
    pattern.deleteAll (front ++ back) =
      ⟨front ++ (pattern.deleteAll back).bytes, (pattern.deleteAll back).count⟩ := by
  induction front with
  | nil => simp
  | cons byte front ih =>
      have later := ih fun rest nonempty suffix =>
        missing rest nonempty (suffix.trans (List.suffix_cons byte front))
      have here : pattern (byte :: (front ++ back)) = none :=
        missing (byte :: front) (by simp) List.suffix_rfl
      rw [List.cons_append, delete_all_of_no_match here, later]
      rfl

theorem Quiet.of_suffix {code rest : Bytes} (quiet : pattern.Quiet code) (suffix : rest <:+ code) :
    pattern.Quiet rest :=
  fun tail within => quiet tail (within.trans suffix)

theorem Proper.nil (proper : pattern.Proper) : pattern [] = none := by
  cases found : pattern [] with
  | none => rfl
  | some width =>
      have bounds := proper [] width found
      simp only [List.length_nil] at bounds
      omega

theorem quiet_cons (byte : UInt8) (rest : Bytes) :
    pattern.Quiet (byte :: rest) ↔ pattern (byte :: rest) = none ∧ pattern.Quiet rest := by
  constructor
  · intro quiet
    exact ⟨quiet _ List.suffix_rfl, quiet.of_suffix (List.suffix_cons byte rest)⟩
  · rintro ⟨here, later⟩ tail suffix
    rcases List.suffix_cons_iff.mp suffix with rfl | within
    · exact here
    · exact later tail within

theorem delete_all_of_quiet {code : Bytes} (quiet : pattern.Quiet code) :
    pattern.deleteAll code = ⟨code, 0⟩ := by
  induction code with
  | nil => rfl
  | cons byte rest ih =>
      obtain ⟨here, later⟩ := (quiet_cons byte rest).mp quiet
      rw [delete_all_of_no_match here, ih later]

theorem delete_all_count_eq_zero (proper : pattern.Proper) (code : Bytes) :
    (pattern.deleteAll code).count = 0 ↔ pattern.Quiet code := by
  constructor
  · intro uncounted
    induction code with
    | nil =>
        intro rest suffix
        rw [List.suffix_nil.mp suffix]
        exact proper.nil
    | cons byte rest ih =>
        cases found : pattern (byte :: rest) with
        | some width =>
            rw [delete_all_of_match proper found] at uncounted
            simp at uncounted
        | none =>
            rw [delete_all_of_no_match found] at uncounted
            exact (quiet_cons byte rest).mpr ⟨found, ih uncounted⟩
  · intro quiet
    rw [delete_all_of_quiet quiet]

end BlankUse.Pattern
