import BlankUse.Proofs.Edits
import BlankUse.Proofs.LineByLine

/-!
A buffer under any sequence of edits. Edits come in batches of one kind: lines are commented out, get
usages, or lose a comment mark. A batch stops at the first number that is no line of the buffer, and
the edits before it stay. Whatever batches are applied and wherever they stop, the buffer has the lines
of the code it was made from, in their number, and none of them comes to hold a line feed. So the
buffer is read back from its code, and a line number means the same line in both.
-/

namespace BlankUse.LineBuffer

open Byte

inductive Batch where
  | commentOut (numbers : List Int)
  | appendUsages (marker : Marker) (findings : List Finding)
  | uncomment (numbers : List Int)

namespace Batch

def numbers : Batch → List Int
  | commentOut numbers => numbers
  | appendUsages _ findings => findings.map Finding.line
  | uncomment numbers => numbers

def edits : Batch → List Edit
  | commentOut numbers => numbers.map fun number => ⟨number, comment⟩
  | appendUsages marker findings => findings.map fun finding =>
      ⟨finding.line, appendBeforeReturn (marker.render finding.name)⟩
  | uncomment numbers => numbers.map fun number => ⟨number, dropComment⟩

def apply : Batch → List Bytes → Edited
  | commentOut numbers, lines => (LineBuffer.commentOut numbers lines).toEdited
  | appendUsages marker findings, lines => LineBuffer.appendUsages marker findings lines
  | uncomment numbers, lines => LineBuffer.uncomment numbers lines

/-- The buffer after some batches, of which each may have stopped anywhere. -/
def applyAll (batches : List Batch) (lines : List Bytes) : List Bytes :=
  batches.foldl (fun lines batch => (batch.apply lines).lines) lines

def OnLine : Batch → Prop
  | appendUsages marker findings =>
      '\n' ∉ marker.tool ∧ ∀ finding ∈ findings, '\n' ∉ finding.name
  | _ => True

/-- The numbers in front of the first one that is no line of the buffer. -/
def namedBefore (batch : Batch) (lines : List Bytes) : List Int :=
  batch.numbers.takeWhile fun number => Inside lines number

def stray? (batch : Batch) (lines : List Bytes) : Option Int :=
  batch.numbers.find? fun number => ¬ Inside lines number

theorem apply_eq (batch : Batch) : batch.apply = applyEdits batch.edits := by
  cases batch <;> rfl

theorem numbers_eq (batch : Batch) : batch.numbers = batch.edits.map Edit.line := by
  cases batch <;> simp [numbers, edits, Function.comp_def]

theorem named_before_eq (batch : Batch) (lines : List Bytes) :
    batch.namedBefore lines = (reached batch.edits lines).map Edit.line := by
  rw [namedBefore, numbers_eq, List.takeWhile_map]
  rfl

theorem stray_eq (batch : Batch) (lines : List Bytes) :
    batch.stray? lines = (firstOutside batch.edits lines).map Edit.line := by
  rw [stray?, numbers_eq, List.find?_map]
  rfl

theorem apply_lines (batch : Batch) (lines : List Bytes) :
    (batch.apply lines).lines = lines.mapIdx (changed (reached batch.edits lines)) := by
  rw [apply_eq, apply_edits_eq]

theorem apply_problem (batch : Batch) (lines : List Bytes) :
    (batch.apply lines).problem =
      (batch.stray? lines).map fun number => .ofOutside number lines.length := by
  rw [apply_eq, apply_edits_eq, stray_eq, Option.map_map, Function.comp_def]

end Batch

/-! What each kind of edit leaves of a line without a line feed. -/

theorem comment_free {line : Bytes} (free : newline ∉ line) : newline ∉ comment line :=
  List.not_mem_append (by decide) free

theorem drop_comment_free {line : Bytes} (free : newline ∉ line) : newline ∉ dropComment line :=
  fun inside => free ((drop_comment_suffix line).subset inside)

theorem append_before_return_free {addition line : Bytes} (added : newline ∉ addition)
    (free : newline ∉ line) : newline ∉ appendBeforeReturn addition line := by
  rw [← body_append_ending line, List.mem_append, not_or] at free
  rw [append_before_return_eq]
  exact List.not_mem_append (List.not_mem_append free.1 added) free.2

theorem render_newline_free {marker : Marker} {name : Text} (tool : '\n' ∉ marker.tool)
    (named : '\n' ∉ name) : newline ∉ marker.render name := by
  have spelled := Marker.encode_newline_free named
  have closed := Marker.closing_free_of_tool tool
  have opened : newline ∉ Marker.opening := by decide
  simp only [Marker.render, List.mem_append, List.mem_cons, not_or]
  exact ⟨⟨opened, by decide, spelled⟩, closed⟩

theorem Batch.OnLine.edit_free {batch : Batch} (onLine : batch.OnLine) {edit : Edit}
    (member : edit ∈ batch.edits) {line : Bytes} (free : newline ∉ line) :
    newline ∉ edit.change line := by
  cases batch with
  | commentOut numbers =>
      obtain ⟨number, -, rfl⟩ := List.mem_map.mp member
      exact comment_free free
  | appendUsages marker findings =>
      obtain ⟨finding, found, rfl⟩ := List.mem_map.mp member
      exact append_before_return_free (render_newline_free onLine.1 (onLine.2 finding found)) free
  | uncomment numbers =>
      obtain ⟨number, -, rfl⟩ := List.mem_map.mp member
      exact drop_comment_free free

theorem changed_free {edits : List Edit}
    (keeps : ∀ edit ∈ edits, ∀ line, newline ∉ line → newline ∉ edit.change line) (index : Nat)
    {line : Bytes} (free : newline ∉ line) : newline ∉ changed edits index line := by
  induction edits generalizing line with
  | nil => exact free
  | cons edit rest ih =>
      rw [changed_cons]
      apply ih fun other member => keeps other (by simp [member])
      split
      · exact keeps edit (by simp) line free
      · exact free

theorem changed_unnamed {edits : List Edit} {index : Nat}
    (unnamed : (index : Int) ∉ edits.map Edit.line) (line : Bytes) :
    changed edits index line = line := by
  have none : edits.filter (fun edit => edit.line = (index : Int)) = [] := by
    rw [List.filter_eq_nil_iff]
    intro edit member same
    exact unnamed (List.mem_map.mpr ⟨edit, member, by simpa using same⟩)
  rw [changed, none]
  rfl

/-! One batch, and then any number. -/

/-- A buffer that has as many lines as code has, none of them with a line feed in it. -/
structure Faithful (code : Bytes) (lines : List Bytes) : Prop where
  count : lines.length = (ofCode code).length
  free : ∀ line ∈ lines, newline ∉ line

theorem Faithful.of_code (code : Bytes) : Faithful code (ofCode code) :=
  ⟨rfl, of_code_newline_free code⟩

theorem Faithful.reread {code : Bytes} {lines : List Bytes} (faithful : Faithful code lines) :
    ofCode (toCode lines) = lines := by
  apply of_code_to_code lines _ faithful.free
  intro empty
  have count := faithful.count
  rw [empty, List.length_nil, eq_comm, List.length_eq_zero_iff] at count
  exact of_code_ne_nil code count

theorem Faithful.inside_iff {code : Bytes} {lines : List Bytes} (faithful : Faithful code lines)
    (number : Int) : Inside lines number ↔ Inside (ofCode code) number := by
  rw [Inside, Inside, faithful.count]

theorem Faithful.batch {code : Bytes} {lines : List Bytes} (faithful : Faithful code lines)
    {batch : Batch} (onLine : batch.OnLine) : Faithful code (batch.apply lines).lines := by
  rw [batch.apply_lines]
  constructor
  · rw [List.length_mapIdx, faithful.count]
  · intro line member
    obtain ⟨index, bounded, rfl⟩ := List.mem_mapIdx.mp member
    apply changed_free _ index (faithful.free _ (List.getElem_mem bounded))
    intro edit passed line free
    exact onLine.edit_free ((List.takeWhile_sublist _).subset passed) free

theorem Faithful.batches {code : Bytes} {lines : List Bytes} (faithful : Faithful code lines)
    {batches : List Batch} (onLine : ∀ batch ∈ batches, batch.OnLine) :
    Faithful code (Batch.applyAll batches lines) := by
  induction batches generalizing lines with
  | nil => exact faithful
  | cons batch rest ih =>
      exact ih (faithful.batch (onLine batch (by simp))) fun later member =>
        onLine later (by simp [member])

/-- A buffer stays faithful to its code under batches of any kind and number, wherever they stop. A
batch keeps the number of lines, and a line becomes what the edits before the stop that name it make of
it, so the others stay as they are. The buffer is read back from its code, and so its line numbers are
those of the code. A batch is refused exactly if it names a number that is no line, and the first such
number is told. -/
theorem buffer_stays_faithful (code : Bytes) (earlier : List Batch) (batch : Batch)
    (onLine : ∀ made ∈ earlier ++ [batch], made.OnLine) :
    let before := Batch.applyAll earlier (ofCode code)
    let after := batch.apply before
    after.lines.length = (ofCode code).length ∧
    after.lines = before.mapIdx (changed (reached batch.edits before)) ∧
    (∀ index : Nat, (index : Int) ∉ batch.namedBefore before →
      after.lines[index]? = before[index]?) ∧
    ofCode (toCode after.lines) = after.lines ∧
    (after.problem ≠ none ↔ ∃ number ∈ batch.numbers, ¬ Inside (ofCode code) number) ∧
    after.problem = (batch.stray? (ofCode code)).map fun number =>
      .ofOutside number (ofCode code).length := by
  intro before after
  have faithful : Faithful code before :=
    (Faithful.of_code code).batches fun made member => onLine made (by simp [member])
  have kept : Faithful code after.lines := faithful.batch (onLine batch (by simp))
  have told : after.problem = (batch.stray? (ofCode code)).map fun number =>
      .ofOutside number (ofCode code).length := by
    simp only [after, batch.apply_problem, Batch.stray?, faithful.inside_iff, faithful.count]
  refine ⟨kept.count, batch.apply_lines before, ?_, kept.reread, ?_, told⟩
  · intro index unnamed
    rw [batch.named_before_eq] at unnamed
    simp only [after]
    rw [batch.apply_lines, List.getElem?_mapIdx]
    cases before[index]? with
    | none => rfl
    | some line => exact congrArg some (changed_unnamed unnamed line)
  · rw [told, Batch.stray?]
    simp

/-- Three batches that all stop on the way, on a line that breaks off inside a character, a line that
ends in a carriage return and an empty one. The last batch takes three characters that are no comment
mark, and never comes to the line that holds one. -/
theorem buffer_stays_faithful_stopped :
    let code : Bytes := [0xC3, newline, 0x61, carriageReturn, newline]
    let earlier : List Batch :=
      [.commentOut [0, 3, 1], .appendUsages ⟨['t']⟩ [⟨['v'], 1⟩, ⟨['w'], -1⟩, ⟨['x'], 0⟩]]
    let batch : Batch := .uncomment [1, 40, 0]
    let before := Batch.applyAll earlier (ofCode code)
    let after := batch.apply before
    (∀ made ∈ earlier ++ [batch], made.OnLine) ∧
      before = [[slash, slash, space, 0xC3],
        0x61 :: Marker.ascii "; _ = v /* TODO: t */".toList ++ [carriageReturn], []] ∧
      after.lines[1]? = some (Marker.ascii "_ = v /* TODO: t */".toList ++ [carriageReturn]) ∧
      after.lines[0]? = before[0]? ∧ after.lines.length = 3 ∧
      ofCode (toCode after.lines) = after.lines ∧ after.problem = some (.ofOutside 40 3) := by
  intro code earlier batch before after
  have onLine : ∀ made ∈ earlier ++ [batch], made.OnLine := by
    simp [earlier, batch, Batch.OnLine]
  obtain ⟨count, -, frame, reread, -, told⟩ := buffer_stays_faithful code earlier batch onLine
  exact ⟨onLine, by decide, by decide, frame 0 (by decide), count, reread, told⟩

end BlankUse.LineBuffer
