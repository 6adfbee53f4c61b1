import BlankUse.Proofs.OwnLine
import BlankUse.Proofs.UsageRemoval

/-!
Code in which some usages are appended and others, after formatting, stand on lines of their own.
One removal takes the appended usages and leaves the others where they are, the next takes those.
The blanks in front of a usage may hold line feeds, so a match may reach over lines. It cannot reach
over a usage line, because what follows the line feed there is neither of the two bytes that could
go on with the match; and a match that stays clear of the usage lines was there before they were put
in.
-/

namespace BlankUse.Marker

open Byte LineBuffer

/-- A usage on a line of its own, indented by spaces and tabs. -/
structure OwnUsage where
  indent : Bytes
  name : Text
  indented : ∀ byte ∈ indent, byte = space ∨ byte = 0x09
  word : name.WordChars

namespace OwnUsage

variable (usage : OwnUsage) (marker : Marker)

def line : Bytes :=
  usage.indent ++ underscore :: space :: equals :: space ::
    (Utf8.encode usage.name ++ marker.closing)

theorem indent_blank : ∀ byte ∈ usage.indent, isBlank byte = true := by
  intro byte member
  rcases usage.indented byte member with rfl | rfl <;> decide

theorem line_avoids {marker : Marker} (tool : marker.tool.WordChars) (byte : UInt8)
    (foreign : ¬ IsWordByte byte) (unframed : byte ∉ closingFrame)
    (outside : byte ∉ [space, 0x09, underscore, equals]) : byte ∉ usage.line marker := by
  have closingFree := closing_avoids tool foreign unframed
  have nameFree : byte ∉ Utf8.encode usage.name := fun inside =>
    foreign (usage.word.bytes byte inside)
  have indentFree : byte ∉ usage.indent := fun inside =>
    outside (by rcases usage.indented byte inside with rfl | rfl <;> simp)
  simp only [List.mem_cons, List.not_mem_nil, or_false, not_or] at outside
  simp [line, indentFree, nameFree, closingFree, outside]

theorem cut_line {marker : Marker} (tool : marker.tool.WordChars) :
    marker.cut? (usage.line marker) = none := by
  apply cut_eq_none
  intro opened
  have free := usage.line_avoids tool semicolon (by decide) (by decide) (by decide)
  exact free (opened.subset (by simp [opening]))

theorem match_line (back : Bytes) :
    marker.ownLine (newline :: usage.line marker ++ back) =
      some (newline :: usage.line marker).length := by
  have leadBlank : ∀ byte ∈ newline :: usage.indent, isBlank byte = true := by
    intro byte member
    rcases List.mem_cons.mp member with rfl | inside
    · decide
    · exact usage.indent_blank byte inside
  have gapBlank : ∀ byte ∈ [space], isBlank byte = true := by
    intro byte member
    rw [List.mem_singleton.mp member]
    decide
  have nameBytes : ∀ byte ∈ Utf8.encode usage.name, isNameByte byte = true := fun byte member =>
    is_name_byte_of_word (usage.word.bytes byte member)
  refine (own_line_eq_some marker _ _).mpr
    ⟨⟨newline :: usage.indent, [space], Utf8.encode usage.name, [], leadBlank, gapBlank, nameBytes,
      by simp⟩, back, ?_, ?_⟩
  · simp [Runs.usage, line]
  · simp [Runs.usage, line]

end OwnUsage

/-- A line of code with the usages that are appended to it and those on the lines behind it. A line
with appended usages held no opening before, and a line with others behind it ends in a byte that is
no blank. -/
structure Annotated where
  line : Bytes
  appended : List Text
  own : List OwnUsage
  words : ∀ name ∈ appended, name.WordChars
  unopened : appended ≠ [] → ¬ opening <:+: line
  solid : own ≠ [] → ∃ last, line.getLast? = some last ∧ isBlank last = false

namespace Annotated

variable (marker : Marker)

def ownLines (annotated : Annotated) : List Bytes :=
  annotated.own.map fun usage => usage.line marker

def detached (annotated : Annotated) : List Bytes :=
  annotated.line :: annotated.ownLines marker

def written (annotated : Annotated) : List Bytes :=
  appendBeforeReturn (annotated.appended.flatMap marker.render) annotated.line ::
    annotated.ownLines marker

def appendedCount (plan : List Annotated) : Nat :=
  plan.countP fun annotated => annotated.appended ≠ []

def ownCount (plan : List Annotated) : Nat :=
  (plan.flatMap Annotated.own).length

end Annotated

/-! Usages on lines of their own. -/

theorem delete_own_lines (marker : Marker) (own : List OwnUsage) (back : Bytes) :
    Pattern.deleteAll marker.ownLine
        ((own.map fun usage => usage.line marker).flatMap (newline :: ·) ++ back) =
      ⟨(Pattern.deleteAll marker.ownLine back).bytes,
        (Pattern.deleteAll marker.ownLine back).count + own.length⟩ := by
  induction own with
  | nil => simp
  | cons usage rest ih =>
      rw [List.map_cons, List.flatMap_cons, List.append_assoc,
        Pattern.delete_all_of_match (own_line_proper marker) (usage.match_line marker _),
        List.drop_left, ih]
      simp [Nat.add_assoc]

def laterText (marker : Marker) (plan : List Annotated) : Bytes :=
  (plan.flatMap (Annotated.detached marker)).flatMap (newline :: ·)

theorem later_text_cons (marker : Marker) (annotated : Annotated) (rest : List Annotated) :
    laterText marker (annotated :: rest) =
      newline :: annotated.line ++
        ((annotated.ownLines marker).flatMap (newline :: ·) ++ laterText marker rest) := by
  simp [laterText, Annotated.detached]

variable {marker : Marker}

/-- A usage that starts in front of usage lines, with a byte ahead of them that is no blank, ends in
front of them. -/
theorem usage_prefix_of_own_lines (closingFree : newline ∉ marker.closing) (runs : Runs)
    {own : List OwnUsage} (nonempty : own ≠ []) {front back : Bytes}
    (solid : ∃ byte ∈ front, isBlank byte = false)
    (found : runs.usage marker <+:
      front ++ ((own.map fun usage => usage.line marker).flatMap (newline :: ·) ++ back)) :
    runs.usage marker <+: front := by
  obtain ⟨usage, rest, rfl⟩ := List.exists_cons_of_ne_nil nonempty
  rw [List.map_cons, List.flatMap_cons, OwnUsage.line] at found
  simp only [List.cons_append, List.append_assoc] at found
  exact usage_prefix_of_barrier marker closingFree runs solid usage.indent_blank found

theorem Annotated.solid_byte (annotated : Annotated) (owned : annotated.own ≠ [])
    {front rest : Bytes} (ends : annotated.line <:+ front) (nonempty : rest ≠ [])
    (suffix : rest <:+ front) : ∃ byte ∈ rest, isBlank byte = false := by
  obtain ⟨last, atEnd, notBlank⟩ := annotated.solid owned
  obtain ⟨ahead, rfl⟩ := ends
  obtain ⟨early, shape⟩ := suffix
  have same := congrArg List.getLast? shape
  rw [List.getLast?_append_of_ne_nil _ nonempty, List.getLast?_append, atEnd] at same
  exact ⟨last, List.mem_of_getLast? same, notBlank⟩

theorem usage_prefix_plain (closingFree : newline ∉ marker.closing) (runs : Runs)
    (plan : List Annotated) (front : Bytes)
    (found : runs.usage marker <+: front ++ laterText marker plan) :
    runs.usage marker <+: front ++ (plan.map Annotated.line).flatMap (newline :: ·) := by
  induction plan generalizing front with
  | nil => simpa [laterText] using found
  | cons annotated rest ih =>
      rw [later_text_cons, ← List.append_assoc] at found
      rw [List.map_cons, List.flatMap_cons, ← List.append_assoc]
      by_cases unowned : annotated.own = []
      · simp only [Annotated.ownLines, unowned, List.map_nil, List.flatMap_nil,
          List.nil_append] at found
        exact ih _ found
      · -- The usage lines behind this line stop the match, so it never gets to the later ones.
        have ends : annotated.line <:+ front ++ newline :: annotated.line :=
          ⟨front ++ [newline], by simp⟩
        have solid := annotated.solid_byte unowned ends (by simp) List.suffix_rfl
        have within := usage_prefix_of_own_lines closingFree runs unowned solid found
        exact within.trans (List.prefix_append _ _)

/-- No match starts in a line of a plan, since it would be one in the code without usage lines. -/
theorem no_own_match (closingFree : newline ∉ marker.closing) (annotated : Annotated)
    (plan : List Annotated) {front : Bytes} (ends : annotated.line <:+ front)
    (quiet : Pattern.Quiet marker.ownLine
      (front ++ (plan.map Annotated.line).flatMap (newline :: ·)))
    (rest : Bytes) (nonempty : rest ≠ []) (suffix : rest <:+ front) :
    marker.ownLine (rest ++
      ((annotated.ownLines marker).flatMap (newline :: ·) ++ laterText marker plan)) = none := by
  rw [Option.eq_none_iff_forall_ne_some]
  intro width matched
  obtain ⟨runs, tail, shape, -⟩ := (own_line_eq_some marker _ _).mp matched
  have starts : runs.usage marker <+: rest ++
      ((annotated.ownLines marker).flatMap (newline :: ·) ++ laterText marker plan) :=
    ⟨tail, shape.symm⟩
  have plain : runs.usage marker <+:
      rest ++ (plan.map Annotated.line).flatMap (newline :: ·) := by
    by_cases unowned : annotated.own = []
    · simp only [Annotated.ownLines, unowned, List.map_nil, List.flatMap_nil,
        List.nil_append] at starts
      exact usage_prefix_plain closingFree runs plan rest starts
    · have solid := annotated.solid_byte unowned ends nonempty suffix
      have within := usage_prefix_of_own_lines closingFree runs unowned solid starts
      exact within.trans (List.prefix_append _ _)
  obtain ⟨tail, shape⟩ := plain
  have again := (own_line_eq_some marker _ _).mpr ⟨runs, tail, shape.symm, rfl⟩
  obtain ⟨ahead, rfl⟩ := suffix
  rw [quiet _ ⟨ahead, by simp⟩] at again
  cases again

theorem delete_own_usages (closingFree : newline ∉ marker.closing) (annotated : Annotated)
    (plan : List Annotated) (front : Bytes) (ends : annotated.line <:+ front)
    (quiet : Pattern.Quiet marker.ownLine
      (front ++ (plan.map Annotated.line).flatMap (newline :: ·))) :
    Pattern.deleteAll marker.ownLine (front ++
        ((annotated.ownLines marker).flatMap (newline :: ·) ++ laterText marker plan)) =
      ⟨front ++ (plan.map Annotated.line).flatMap (newline :: ·),
        Annotated.ownCount (annotated :: plan)⟩ := by
  induction plan generalizing annotated front with
  | nil =>
      rw [Pattern.delete_all_append (no_own_match closingFree annotated [] ends quiet),
        Annotated.ownLines, delete_own_lines]
      simp [laterText, Pattern.deleteAll, Pattern.scan, Annotated.ownCount]
  | cons next rest ih =>
      have later := ih next (newline :: next.line) (List.suffix_cons newline next.line)
        (quiet.of_suffix ⟨front, by simp⟩)
      rw [Pattern.delete_all_append (no_own_match closingFree annotated (next :: rest) ends quiet),
        Annotated.ownLines, delete_own_lines, later_text_cons, later]
      simp [Annotated.ownCount]
      omega

/-! The whole code. -/

namespace Annotated

theorem own_lines_uncut (tool : marker.tool.WordChars) (annotated : Annotated) :
    ∀ line ∈ annotated.ownLines marker, marker.cut? line = none := by
  intro line member
  obtain ⟨usage, -, rfl⟩ := List.mem_map.mp member
  exact usage.cut_line tool

theorem own_lines_free (tool : marker.tool.WordChars) (annotated : Annotated) :
    ∀ line ∈ annotated.ownLines marker, newline ∉ line := by
  intro line member
  obtain ⟨usage, -, rfl⟩ := List.mem_map.mp member
  exact usage.line_avoids tool newline (by decide) (by decide) (by decide)

theorem written_free (tool : marker.tool.WordChars) (annotated : Annotated)
    (free : newline ∉ annotated.line) :
    ∀ line ∈ annotated.written marker, newline ∉ line := by
  intro line member
  rcases List.mem_cons.mp member with rfl | behind
  · exact usages_line_free free fun name named => render_free tool (annotated.words name named)
  · exact own_lines_free tool annotated line behind

theorem kept_written (tool : marker.tool.WordChars) (annotated : Annotated)
    (uncut : marker.cut? annotated.line = none) :
    (annotated.written marker).map marker.keptOf = annotated.detached marker := by
  have kept : marker.keptOf (appendBeforeReturn (annotated.appended.flatMap marker.render)
      annotated.line) = annotated.line := by
    rw [kept_of_usages _ uncut]
    split
    · rfl
    · next nonempty => exact (remnant_eq_iff _).mpr (annotated.unopened nonempty)
  have own : (annotated.ownLines marker).map marker.keptOf = annotated.ownLines marker := by
    nth_rewrite 2 [← List.map_id (annotated.ownLines marker)]
    apply List.map_congr_left
    intro line member
    rw [keptOf, own_lines_uncut tool annotated line member]
    rfl
  rw [written, List.map_cons, kept, own, detached]

theorem count_written (tool : marker.tool.WordChars) (annotated : Annotated)
    (uncut : marker.cut? annotated.line = none) :
    (annotated.written marker).countP (fun line => (marker.cut? line).isSome) =
      if annotated.appended ≠ [] then 1 else 0 := by
  have own : (annotated.ownLines marker).countP (fun line => (marker.cut? line).isSome) = 0 := by
    rw [List.countP_eq_zero]
    intro line member
    simp [own_lines_uncut tool annotated line member]
  rw [written, List.countP_cons, own]
  by_cases empty : annotated.appended = []
  · simp [empty, append_before_return_nil, uncut]
  · simp [empty, cut_with_usages annotated.appended empty]

theorem count_plan_written (tool : marker.tool.WordChars) (plan : List Annotated)
    (uncut : ∀ annotated ∈ plan, marker.cut? annotated.line = none) :
    (plan.flatMap (written marker)).countP (fun line => (marker.cut? line).isSome) =
      appendedCount plan := by
  induction plan with
  | nil => rfl
  | cons annotated rest ih =>
      have later := ih fun other member => uncut other (by simp [member])
      rw [List.flatMap_cons, List.countP_append, count_written tool annotated (uncut _ (by simp)),
        later, appendedCount, appendedCount, List.countP_cons, Nat.add_comm]
      simp

end Annotated

theorem delete_written (tool : marker.tool.WordChars) (plan : List Annotated) (nonempty : plan ≠ [])
    (free : ∀ annotated ∈ plan, newline ∉ annotated.line)
    (uncut : ∀ annotated ∈ plan, marker.cut? annotated.line = none) :
    Pattern.deleteAll marker.appended (toCode (plan.flatMap (Annotated.written marker))) =
      ⟨toCode (plan.flatMap (Annotated.detached marker)), Annotated.appendedCount plan⟩ := by
  have closingFree := closing_newline_free tool
  have lines : ofCode (toCode (plan.flatMap (Annotated.written marker))) =
      plan.flatMap (Annotated.written marker) := by
    apply of_code_to_code
    · obtain ⟨first, rest, rfl⟩ := List.exists_cons_of_ne_nil nonempty
      simp [Annotated.written]
    · intro line member
      obtain ⟨annotated, planned, inside⟩ := List.mem_flatMap.mp member
      exact annotated.written_free tool (free annotated planned) line inside
  have kept : (plan.flatMap (Annotated.written marker)).map marker.keptOf =
      plan.flatMap (Annotated.detached marker) := by
    rw [List.map_flatMap]
    apply List.flatMap_congr
    intro annotated planned
    exact annotated.kept_written tool (uncut annotated planned)
  rw [delete_appended closingFree, lines, kept, Annotated.count_plan_written tool plan uncut]

theorem written_eq_detached (plan : List Annotated)
    (unappended : Annotated.appendedCount plan = 0) :
    plan.flatMap (Annotated.written marker) = plan.flatMap (Annotated.detached marker) := by
  apply List.flatMap_congr
  intro annotated planned
  have empty : annotated.appended = [] := by
    simpa using List.countP_eq_zero.mp unappended annotated planned
  rw [Annotated.written, Annotated.detached, empty, List.flatMap_nil, append_before_return_nil]

theorem detached_eq_lines (plan : List Annotated) (unowned : Annotated.ownCount plan = 0) :
    plan.flatMap (Annotated.detached marker) = plan.map Annotated.line := by
  induction plan with
  | nil => rfl
  | cons annotated rest ih =>
      rw [Annotated.ownCount, List.flatMap_cons, List.length_append, Nat.add_eq_zero_iff,
        List.length_eq_zero_iff] at unowned
      rw [List.flatMap_cons, ih unowned.2, Annotated.detached, Annotated.ownLines, unowned.1]
      rfl

def Annotated.bare (annotated : Annotated) : Annotated :=
  { annotated with appended := [], words := by simp, unopened := by simp }

theorem detached_unappended (tool : marker.tool.WordChars) (plan : List Annotated)
    (nonempty : plan ≠ []) (free : ∀ annotated ∈ plan, newline ∉ annotated.line)
    (uncut : ∀ annotated ∈ plan, marker.cut? annotated.line = none) :
    (Pattern.deleteAll marker.appended
      (toCode (plan.flatMap (Annotated.detached marker)))).count = 0 := by
  have deleted := delete_written tool (plan.map Annotated.bare) (by simpa using nonempty)
    (by simpa [Annotated.bare] using free) (by simpa [Annotated.bare] using uncut)
  have unappended : Annotated.appendedCount (plan.map Annotated.bare) = 0 := by
    simp [Annotated.appendedCount, Annotated.bare]
  have same : (plan.map Annotated.bare).flatMap (Annotated.detached marker) =
      plan.flatMap (Annotated.detached marker) := by
    rw [List.flatMap_map]
    rfl
  rw [written_eq_detached _ unappended, same] at deleted
  rw [deleted, unappended]

theorem delete_detached (closingFree : newline ∉ marker.closing) (code : Bytes)
    (clean : marker.strip code = none) (plan : List Annotated)
    (lines : plan.map Annotated.line = ofCode code) :
    Pattern.deleteAll marker.ownLine (toCode (plan.flatMap (Annotated.detached marker))) =
      ⟨code, Annotated.ownCount plan⟩ := by
  have quiet := (Pattern.delete_all_count_eq_zero (own_line_proper marker) code).mp
    ((strip_eq_none_iff marker code).mp clean).2
  rw [← to_code_of_code code, ← lines] at quiet ⊢
  cases plan with
  | nil => exact absurd lines.symm (of_code_ne_nil code)
  | cons annotated rest =>
      rw [List.map_cons, to_code_cons] at quiet ⊢
      have deleted := delete_own_usages closingFree annotated rest _ List.suffix_rfl quiet
      rw [← deleted, List.flatMap_cons, Annotated.detached, List.cons_append, to_code_cons,
        List.flatMap_append, laterText]

theorem plan_of_clean (closingFree : newline ∉ marker.closing) {code : Bytes}
    (clean : marker.strip code = none) {plan : List Annotated}
    (lines : plan.map Annotated.line = ofCode code) :
    plan ≠ [] ∧ (∀ annotated ∈ plan, newline ∉ annotated.line) ∧
      ∀ annotated ∈ plan, marker.cut? annotated.line = none := by
  have lineOf : ∀ annotated ∈ plan, annotated.line ∈ ofCode code := by
    intro annotated planned
    rw [← lines]
    exact List.mem_map_of_mem planned
  refine ⟨?_, ?_, ?_⟩
  · rintro rfl
    exact of_code_ne_nil code lines.symm
  · intro annotated planned
    exact of_code_newline_free code _ (lineOf annotated planned)
  · intro annotated planned
    exact uncut_of_clean closingFree clean _ (lineOf annotated planned)

theorem strip_written (tool : marker.tool.WordChars) (code : Bytes)
    (clean : marker.strip code = none) (plan : List Annotated)
    (lines : plan.map Annotated.line = ofCode code) (counted : Annotated.appendedCount plan ≠ 0) :
    marker.strip (toCode (plan.flatMap (Annotated.written marker))) =
      some ⟨.appended, Annotated.appendedCount plan,
        toCode (plan.flatMap (Annotated.detached marker))⟩ := by
  have closingFree := closing_newline_free tool
  obtain ⟨nonempty, free, uncut⟩ := plan_of_clean closingFree clean lines
  have deleted := delete_written tool plan nonempty free uncut
  have stripped := strip_of_appended (toCode (plan.flatMap (Annotated.written marker)))
    (by rwa [deleted])
  rwa [deleted] at stripped

theorem strip_detached (tool : marker.tool.WordChars) (code : Bytes)
    (clean : marker.strip code = none) (plan : List Annotated)
    (lines : plan.map Annotated.line = ofCode code) (counted : Annotated.ownCount plan ≠ 0) :
    marker.strip (toCode (plan.flatMap (Annotated.detached marker))) =
      some ⟨.ownLine, Annotated.ownCount plan, code⟩ := by
  have closingFree := closing_newline_free tool
  obtain ⟨nonempty, free, uncut⟩ := plan_of_clean closingFree clean lines
  have unappended := detached_unappended tool plan nonempty free uncut
  have deleted := delete_detached closingFree code clean plan lines
  have stripped := strip_of_own_line _ unappended (by rwa [deleted])
  rwa [deleted] at stripped

/-- Usages that are partly reformatted go in two steps. The first removal takes the appended ones
and nothing else, the second takes the others, and then there is nothing left to remove. Where there
are usages of one form only, one removal brings the code back. -/
theorem strip_reformatted (marker : Marker) (tool : marker.tool.WordChars) (code : Bytes)
    (clean : marker.strip code = none) (plan : List Annotated)
    (lines : plan.map Annotated.line = ofCode code) :
    let written := toCode (plan.flatMap (Annotated.written marker))
    let detached := toCode (plan.flatMap (Annotated.detached marker))
    let appendedCount := Annotated.appendedCount plan
    let ownCount := Annotated.ownCount plan
    (appendedCount ≠ 0 → ownCount ≠ 0 →
      marker.strip written = some ⟨.appended, appendedCount, detached⟩ ∧
      marker.strip detached = some ⟨.ownLine, ownCount, code⟩ ∧
      marker.strip code = none) ∧
    (appendedCount ≠ 0 → ownCount = 0 →
      marker.strip written = some ⟨.appended, appendedCount, code⟩) ∧
    (appendedCount = 0 → ownCount ≠ 0 →
      marker.strip written = some ⟨.ownLine, ownCount, code⟩) := by
  intro written detached appendedCount ownCount
  refine ⟨?_, ?_, ?_⟩
  · intro appended own
    exact ⟨strip_written tool code clean plan lines appended,
      strip_detached tool code clean plan lines own, clean⟩
  · intro appended unowned
    have same : detached = code := by
      rw [← to_code_of_code code, ← lines, ← detached_eq_lines plan unowned]
    rw [strip_written tool code clean plan lines appended, ← same]
  · intro unappended own
    have same : written = detached := congrArg toCode (written_eq_detached plan unappended)
    rw [same, strip_detached tool code clean plan lines own]

/-- Two lines, the first with usages of both forms and the second with one before its carriage
return. -/
def mixedPlan : List Annotated :=
  [⟨ascii ['a', ';', 'b'], [['v'], ['w']],
    [⟨[0x09], ['v'], by simp, by decide⟩, ⟨[], ['w'], by simp, by decide⟩],
    by decide, by decide, fun _ => ⟨0x62, by decide, by decide⟩⟩,
   ⟨ascii ['c', '\r'], [['v']], [], by decide, by decide, by simp⟩]

theorem strip_reformatted_mixed :
    let marker : Marker := ⟨['g', 'o', 'u', 's', 'e']⟩
    let code := ascii ['a', ';', 'b', '\n', 'c', '\r']
    let written := toCode (mixedPlan.flatMap (Annotated.written marker))
    let detached := toCode (mixedPlan.flatMap (Annotated.detached marker))
    marker.strip written = some ⟨.appended, 2, detached⟩ ∧
      marker.strip detached = some ⟨.ownLine, 2, code⟩ ∧ marker.strip code = none :=
  (strip_reformatted ⟨['g', 'o', 'u', 's', 'e']⟩ (by decide)
    (ascii ['a', ';', 'b', '\n', 'c', '\r']) (by decide) mixedPlan (by decide)).1
    (by decide) (by decide)

end BlankUse.Marker
