import BlankUse.Proofs.LineByLine
import BlankUse.Proofs.OwnLine

/-!
Where usages stand on lines of their own. A usage is a stretch of the code that takes all the blanks in
front of its `_`, and any two of them lie apart: none starts inside another, and at one place there is
one way to read a usage. So the scan, which goes from the left and never looks back, meets each of
them, and what it keeps is the code outside them.
-/

namespace BlankUse

@[ext]
structure Span where
  start : Nat
  stop : Nat
  deriving DecidableEq, Repr

def Span.Holds (span : Span) (index : Nat) : Prop := span.start ≤ index ∧ index < span.stop

instance (span : Span) (index : Nat) : Decidable (span.Holds index) :=
  inferInstanceAs (Decidable (_ ∧ _))

def outside (spans : List Span) (position : Nat) (code : Bytes) : Bytes :=
  ((code.zipIdx position).filter fun entry => ∀ span ∈ spans, ¬ span.Holds entry.2).map Prod.fst

theorem outside_cons {spans : List Span} {position : Nat}
    (ahead : ∀ span ∈ spans, position < span.start) (byte : UInt8) (rest : Bytes) :
    outside spans position (byte :: rest) = byte :: outside spans (position + 1) rest := by
  have free : ∀ span ∈ spans, ¬ span.Holds position := by
    intro span member held
    have later := ahead span member
    exact absurd held.1 (by omega)
  rw [outside, List.zipIdx_cons, List.filter_cons_of_pos (by simpa using free), List.map_cons]
  rfl

theorem outside_append (spans : List Span) (position : Nat) (piece rest : Bytes) :
    outside (⟨position, position + piece.length⟩ :: spans) position (piece ++ rest) =
      outside spans (position + piece.length) rest := by
  have inside : (piece.zipIdx position).filter (fun entry =>
      ∀ span ∈ (⟨position, position + piece.length⟩ : Span) :: spans, ¬ span.Holds entry.2) = [] := by
    rw [List.filter_eq_nil_iff]
    intro entry member
    have above := List.le_snd_of_mem_zipIdx member
    have below := List.snd_lt_add_of_mem_zipIdx member
    simp [Span.Holds]
    omega
  have behind : (rest.zipIdx (position + piece.length)).filter (fun entry =>
      ∀ span ∈ (⟨position, position + piece.length⟩ : Span) :: spans, ¬ span.Holds entry.2) =
      (rest.zipIdx (position + piece.length)).filter
        fun entry => ∀ span ∈ spans, ¬ span.Holds entry.2 := by
    apply List.filter_congr
    intro entry member
    have above := List.le_snd_of_mem_zipIdx member
    have passed : ¬ (⟨position, position + piece.length⟩ : Span).Holds entry.2 := by
      simp only [Span.Holds]
      omega
    simp [passed]
  rw [outside, List.zipIdx_append, List.filter_append, inside, behind]
  rfl

namespace Marker

open Byte

/-- The span is a usage in the code, with all the blanks in front of its `_`. -/
def UsageAt (marker : Marker) (code : Bytes) (span : Span) : Prop :=
  ∃ (front : Bytes) (runs : Runs) (back : Bytes),
    code = front ++ (runs.usage marker ++ back) ∧ (∀ byte ∈ front.getLast?, isBlank byte = false) ∧
      span = ⟨front.length, front.length + (runs.usage marker).length⟩

variable {marker : Marker} {code : Bytes} {first second span : Span}

/-! Two usages. -/

theorem usage_length_pos (marker : Marker) (runs : Runs) : 0 < (runs.usage marker).length := by
  simp only [Runs.usage, List.length_append, List.length_cons]
  omega

theorem usage_last (marker : Marker) (runs : Runs) : (runs.usage marker).getLast? = some slash := by
  obtain ⟨front, closed⟩ := closing_last marker
  have shape : runs.usage marker = runs.lead ++ underscore :: (runs.gap ++ equals :: space ::
      (runs.name ++ (runs.pad ++ front))) ++ [slash] := by
    simp [Runs.usage, closed]
  rw [shape, List.getLast?_concat]

theorem UsageAt.start_lt_stop (usage : marker.UsageAt code span) : span.start < span.stop := by
  obtain ⟨front, runs, back, -, -, rfl⟩ := usage
  have positive := usage_length_pos marker runs
  show front.length < front.length + _
  omega

theorem UsageAt.recognised (usage : marker.UsageAt code span) :
    marker.ownLine (code.drop span.start) = some (span.stop - span.start) := by
  obtain ⟨front, runs, back, rfl, -, rfl⟩ := usage
  rw [List.drop_left, own_line_usage, Nat.add_sub_cancel_left]

theorem UsageAt.eq_of_start (usage : marker.UsageAt code first) (other : marker.UsageAt code second)
    (same : first.start = second.start) : first = second := by
  have read := usage.recognised
  rw [same, other.recognised, Option.some.injEq] at read
  have filled := usage.start_lt_stop
  have otherFilled := other.start_lt_stop
  exact Span.ext same (by omega)

/-- A usage that starts behind another starts behind its end: the byte before it is no blank, so it
does not start among the blanks of the other one either. -/
theorem UsageAt.apart (tool : marker.tool.WordChars) (usage : marker.UsageAt code first)
    (other : marker.UsageAt code second) (later : first.start < second.start) :
    first.stop ≤ second.start := by
  obtain ⟨front, runs, back, rfl, -, rfl⟩ := usage
  obtain ⟨ahead, others, behind, same, solid, rfl⟩ := other
  simp only at later ⊢
  by_contra within
  obtain ⟨gap, rfl⟩ : front <+: ahead :=
    List.prefix_of_prefix_length_le (List.prefix_append _ _) ⟨_, same.symm⟩ (by omega)
  rw [List.append_assoc, List.append_cancel_left_eq] at same
  rw [List.length_append] at later within
  obtain ⟨tail, split⟩ : gap <+: runs.usage marker :=
    List.prefix_of_prefix_length_le ⟨_, same.symm⟩ (List.prefix_append _ _) (by omega)
  have gapFilled : gap ≠ [] := by
    rintro rfl
    simp at later
  have tailFilled : tail ≠ [] := by
    rintro rfl
    have sizes := congrArg List.length split
    rw [List.append_nil] at sizes
    omega
  rw [← split, List.append_assoc, List.append_cancel_left_eq] at same
  have last : gap.getLast gapFilled ∈ (front ++ gap).getLast? := by
    rw [List.getLast?_append_of_ne_nil _ gapFilled, List.getLast?_eq_getLast_of_ne_nil gapFilled]
    rfl
  exact usage_not_inside tool runs others split.symm tailFilled
    ⟨_, List.getLast_mem gapFilled, solid _ last⟩ ⟨behind, same.symm⟩

theorem UsageAt.disjoint (tool : marker.tool.WordChars) (usage : marker.UsageAt code first)
    (other : marker.UsageAt code second) (distinct : first ≠ second) :
    first.stop ≤ second.start ∨ second.stop ≤ first.start := by
  rcases Nat.lt_trichotomy first.start second.start with before | same | behind
  · exact Or.inl (usage.apart tool other before)
  · exact absurd (usage.eq_of_start other same) distinct
  · exact Or.inr (other.apart tool usage behind)

theorem UsageAt.eq_of_stop (tool : marker.tool.WordChars) (usage : marker.UsageAt code first)
    (other : marker.UsageAt code second) (same : first.stop = second.stop) : first = second := by
  by_contra distinct
  have filled := usage.start_lt_stop
  have otherFilled := other.start_lt_stop
  rcases usage.disjoint tool other distinct with before | behind
  · omega
  · omega

/-! The scan meets every usage. -/

/-- The spans are the usages that start behind the front, and the scan has told and left what is
right for them. -/
structure Met (marker : Marker) (front code : Bytes) (deleted : Pattern.Deleted)
    (spans : List Span) : Prop where
  all : ∀ span, span ∈ spans ↔ marker.UsageAt (front ++ code) span ∧ front.length ≤ span.start
  once : spans.Nodup
  counted : deleted.count = spans.length
  left : deleted.bytes = outside spans front.length code

theorem met_nil (front : Bytes) : marker.Met front [] ⟨[], 0⟩ [] := by
  refine ⟨?_, List.nodup_nil, rfl, rfl⟩
  intro span
  simp only [List.not_mem_nil, List.append_nil, false_iff, not_and, Nat.not_le]
  intro usage
  obtain ⟨ahead, runs, back, rfl, -, rfl⟩ := usage
  have positive := usage_length_pos marker runs
  simp only [List.length_append]
  omega

theorem Met.stays {front rest : Bytes} {byte : UInt8} {deleted : Pattern.Deleted} {spans : List Span}
    (met : marker.Met (front ++ [byte]) rest deleted spans)
    (missing : marker.ownLine (byte :: rest) = none) :
    marker.Met front (byte :: rest) ⟨byte :: deleted.bytes, deleted.count⟩ spans := by
  have all := met.all
  have left := met.left
  simp only [List.append_assoc, List.singleton_append, List.length_append, List.length_singleton]
    at all left
  refine ⟨?_, met.once, met.counted, ?_⟩
  · intro span
    rw [all]
    constructor
    · intro found
      exact ⟨found.1, by omega⟩
    · intro found
      refine ⟨found.1, ?_⟩
      by_contra here
      have start : span.start = front.length := by omega
      have read := found.1.recognised
      rw [start, List.drop_left, missing] at read
      cases read
  · rw [outside_cons, left]
    intro span member
    have behind := ((all span).mp member).2
    omega

theorem Met.goes {front piece rest : Bytes} {deleted : Pattern.Deleted} {spans : List Span}
    (tool : marker.tool.WordChars) (met : marker.Met (front ++ piece) rest deleted spans)
    (matched : marker.ownLine (piece ++ rest) = some piece.length)
    (solid : ∀ byte ∈ front.getLast?, isBlank byte = false) :
    marker.Met front (piece ++ rest) ⟨deleted.bytes, deleted.count + 1⟩
      (⟨front.length, front.length + piece.length⟩ :: spans) := by
  obtain ⟨runs, back, shape, size⟩ := usage_of_own_line marker matched
  obtain ⟨rfl, rfl⟩ := List.append_inj shape size
  have all := met.all
  have left := met.left
  simp only [List.append_assoc, List.length_append] at all left
  have here : marker.UsageAt (front ++ (runs.usage marker ++ rest))
      ⟨front.length, front.length + (runs.usage marker).length⟩ :=
    ⟨front, runs, rest, rfl, solid, rfl⟩
  have positive := usage_length_pos marker runs
  refine ⟨?_, ?_, ?_, ?_⟩
  · intro span
    rw [List.mem_cons, all]
    constructor
    · intro found
      rcases found with rfl | later
      · exact ⟨here, Nat.le_refl _⟩
      · exact ⟨later.1, by omega⟩
    · intro found
      rcases Nat.eq_or_lt_of_le found.2 with same | behind
      · exact Or.inl (found.1.eq_of_start here same.symm)
      · exact Or.inr ⟨found.1, here.apart tool found.1 behind⟩
  · apply List.nodup_cons.mpr
    refine ⟨?_, met.once⟩
    intro member
    have behind := ((all _).mp member).2
    simp only at behind
    omega
  · rw [met.counted, List.length_cons]
  · rw [outside_append, left]

theorem own_line_behind_blank {byte : UInt8} {rest : Bytes}
    (missing : marker.ownLine (byte :: rest) = none) (blank : isBlank byte = true) :
    marker.ownLine rest = none := by
  apply Option.eq_none_iff_forall_ne_some.mpr
  intro width found
  obtain ⟨runs, back, rfl, -⟩ := usage_of_own_line marker found
  let longer : Runs := { runs with
    lead := byte :: runs.lead
    leadBlank := List.forall_mem_cons.mpr ⟨blank, runs.leadBlank⟩ }
  have read := own_line_usage marker longer back
  change marker.ownLine (byte :: (runs.usage marker ++ back)) = _ at read
  rw [missing] at read
  cases read

/-- The scan behind a front meets every usage that starts there, if it is not among the blanks of one
at its start. -/
theorem delete_all_met (tool : marker.tool.WordChars) (front code : Bytes)
    (entered : ∀ byte ∈ front.getLast?, isBlank byte = true → marker.ownLine code = none) :
    ∃ spans, marker.Met front code (Pattern.deleteAll marker.ownLine code) spans := by
  revert front
  refine Pattern.delete_all_induction (own_line_proper marker) (motive := fun code deleted =>
    ∀ front, (∀ byte ∈ front.getLast?, isBlank byte = true → marker.ownLine code = none) →
      ∃ spans, marker.Met front code deleted spans) ?_ ?_ ?_ code
  · intro front _
    exact ⟨[], met_nil front⟩
  · intro byte rest deleted missing ih front _
    obtain ⟨spans, met⟩ := ih (front ++ [byte]) (by
      intro last ends blank
      rw [List.getLast?_concat, Option.mem_some_iff] at ends
      rw [← ends] at blank
      exact own_line_behind_blank missing blank)
    exact ⟨spans, met.stays missing⟩
  · intro piece rest deleted matched ih front entered
    have solid : ∀ byte ∈ front.getLast?, isBlank byte = false := by
      intro byte ends
      by_contra blank
      have missing := entered byte ends (by simpa using blank)
      rw [matched] at missing
      cases missing
    obtain ⟨spans, met⟩ := ih (front ++ piece) (by
      intro last ends blank
      -- A match ends in the slash of its comment.
      obtain ⟨runs, back, shape, size⟩ := usage_of_own_line marker matched
      rw [(List.append_inj shape size).1, List.getLast?_append, usage_last, Option.some_or,
        Option.mem_some_iff] at ends
      rw [← ends] at blank
      exact absurd blank (by decide))
    exact ⟨_, met.goes tool matched solid⟩

/-! The whole code. -/

theorem own_line_message (count : Nat) (left : Bytes) :
    Removal.message ⟨.ownLine, count, left⟩ =
      "Removed " ++ toString count ++ " gofmted fake usage(s)" := by
  have words : " " ++ Form.word .ownLine ++ " fake usage(s)" = " gofmted fake usage(s)" := by decide
  rw [removal_message, words]

theorem strip_of_quiet (silent : Pattern.Quiet marker.appended code) :
    marker.strip code = remove .ownLine marker.ownLine code := by
  have uncounted := (Pattern.delete_all_count_eq_zero marker.appended_proper code).mpr silent
  simp [strip, remove, uncounted]

/-- In code without a match of the appended form, removal takes exactly the usages. Any two of them
lie apart, and no closing ends two. There is nothing to remove only if there is no usage; otherwise the
code outside all usages is left, and the number told is how many usages there are. -/
theorem strip_removes_all_usages (marker : Marker) (tool : marker.tool.WordChars) (code : Bytes)
    (silent : Pattern.Quiet marker.appended code) :
    (∀ first second, marker.UsageAt code first → marker.UsageAt code second → first ≠ second →
      first.stop ≤ second.start ∨ second.stop ≤ first.start) ∧
    (∀ front back, code = front ++ marker.closing ++ back → ∀ first second,
      marker.UsageAt code first → first.stop = (front ++ marker.closing).length →
      marker.UsageAt code second → second.stop = (front ++ marker.closing).length →
        first = second) ∧
    (marker.strip code = none ↔ ∀ span, ¬ marker.UsageAt code span) ∧
    ∀ removal, marker.strip code = some removal →
      ∃ spans : List Span, spans.Nodup ∧ (∀ span, span ∈ spans ↔ marker.UsageAt code span) ∧
        removal = ⟨.ownLine, spans.length, outside spans 0 code⟩ ∧
        removal.message = "Removed " ++ toString spans.length ++ " gofmted fake usage(s)" := by
  obtain ⟨spans, all, once, counted, left⟩ := delete_all_met tool [] code (by simp)
  simp only [List.nil_append, List.length_nil, Nat.zero_le, and_true] at all left
  refine ⟨?_, ?_, ?_, ?_⟩
  · intro first second usage other distinct
    exact usage.disjoint tool other distinct
  · intro front back _ first second usage ends other otherEnds
    exact usage.eq_of_stop tool other (ends.trans otherEnds.symm)
  · rw [strip_of_quiet silent, remove, counted]
    simp only [← all, ite_eq_left_iff, reduceCtorEq, imp_false, not_not, List.length_eq_zero_iff]
    exact List.eq_nil_iff_forall_not_mem
  · intro removal stripped
    rw [strip_of_quiet silent, remove, counted, left] at stripped
    split at stripped
    · cases stripped
    · cases stripped
      exact ⟨spans, once, all, rfl, own_line_message _ _⟩

/-- Usages that touch, with line feeds inside and an `_` in front, of a tool whose name is an `_`. -/
theorem strip_removes_all_usages_touching :
    let marker : Marker := ⟨['_']⟩
    let code := ascii "a\n_=  /* TODO: _ */ _ = x_ \n /* TODO: _ */__ = y /* TODO: _ */;".toList
    Pattern.Quiet marker.appended code ∧
      marker.strip code = some ⟨.ownLine, 3, ascii ['a', '_', ';']⟩ ∧
      ∃ spans : List Span, spans.Nodup ∧ (∀ span, span ∈ spans ↔ marker.UsageAt code span) ∧
        spans.length = 3 ∧ outside spans 0 code = ascii ['a', '_', ';'] := by
  intro marker code
  have silent : Pattern.Quiet marker.appended code :=
    (Pattern.delete_all_count_eq_zero marker.appended_proper code).mp (by decide)
  have stripped : marker.strip code = some ⟨.ownLine, 3, ascii ['a', '_', ';']⟩ := by decide
  obtain ⟨spans, once, all, removed, -⟩ :=
    (strip_removes_all_usages marker (by decide) code silent).2.2.2 _ stripped
  simp only [Removal.mk.injEq, true_and] at removed
  exact ⟨silent, stripped, spans, once, all, removed.1.symm, removed.2.symm⟩

end Marker

end BlankUse
