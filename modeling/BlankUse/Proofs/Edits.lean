import BlankUse.Proofs.Lossless
import Mathlib.Data.List.TakeWhile

/-!
What a list of edits does to a buffer, line by line. Edits of different lines do not meet, so each
line is changed by the edits that name it and by no others, in their order. A list of edits stops at
the first one that lies outside the buffer, so it goes through exactly when each of them lies in it.
Comment marks and usages are put at the two ends of a line, so lines can be commented out and back
while usages are added to them.
-/

namespace BlankUse.LineBuffer

open Byte

theorem inside_iff (lines : List Bytes) (line : Int) :
    Inside lines line ↔ ∃ index < lines.length, line = (index : Int) := by
  constructor
  · rintro ⟨above, below⟩
    exact ⟨line.toNat, by omega, by omega⟩
  · rintro ⟨index, bounded, rfl⟩
    exact ⟨by omega, by omega⟩

def changed (edits : List Edit) (index : Nat) (line : Bytes) : Bytes :=
  (edits.filter fun edit => edit.line = (index : Int)).foldl
    (fun line edit => edit.change line) line

theorem changed_cons (edit : Edit) (rest : List Edit) (index : Nat) (line : Bytes) :
    changed (edit :: rest) index line =
      changed rest index (if edit.line = (index : Int) then edit.change line else line) := by
  unfold changed
  by_cases named : edit.line = (index : Int)
  · rw [if_pos named, List.filter_cons_of_pos (by simpa using named), List.foldl_cons]
  · rw [if_neg named, List.filter_cons_of_neg (by simpa using named)]

theorem map_changed_nil (lines : List Bytes) : lines.mapIdx (changed []) = lines := by
  apply List.ext_getElem?
  intro index
  rw [List.getElem?_mapIdx]
  cases lines[index]? <;> rfl

/-- The edits in front of the first one that lies outside a buffer. -/
def reached (edits : List Edit) (lines : List Bytes) : List Edit :=
  edits.takeWhile fun edit => Inside lines edit.line

def firstOutside (edits : List Edit) (lines : List Bytes) : Option Edit :=
  edits.find? fun edit => ¬ Inside lines edit.line

theorem inside_modify (lines : List Bytes) (index : Nat) (change : Bytes → Bytes) (line : Int) :
    Inside (lines.modify index change) line ↔ Inside lines line := by
  simp [Inside]

/-- All that a list of edits does. The lines get the edits that are reached, and the first one outside
the buffer is the problem. -/
theorem apply_edits_eq (edits : List Edit) (lines : List Bytes) :
    applyEdits edits lines =
      ⟨lines.mapIdx (changed (reached edits lines)),
        (firstOutside edits lines).map fun edit => .ofOutside edit.line lines.length⟩ := by
  induction edits generalizing lines with
  | nil => simp [applyEdits, reached, firstOutside, map_changed_nil]
  | cons edit rest ih =>
      by_cases here : Inside lines edit.line
      · have head : reached (edit :: rest) lines = edit :: reached rest lines := by
          simp [reached, here]
        have later : firstOutside (edit :: rest) lines = firstOutside rest lines := by
          simp [firstOutside, here]
        have number (index : Nat) : edit.line.toNat = index ↔ edit.line = (index : Int) := by
          have positive := here.1
          omega
        rw [applyEdits, if_pos here, ih, head, later]
        simp only [reached, firstOutside, inside_modify, List.length_modify]
        congr 1
        apply List.ext_getElem?
        intro index
        rw [List.getElem?_mapIdx, List.getElem?_mapIdx, List.getElem?_modify, Option.map_eq_map,
          Option.map_map]
        congr 1
        funext line
        simp only [changed_cons, number, Function.comp_apply]
      · have nothing : reached (edit :: rest) lines = [] := by
          simp [reached, here]
        have first : firstOutside (edit :: rest) lines = some edit := by
          simp [firstOutside, here]
        rw [applyEdits, if_neg here, nothing, first, map_changed_nil]
        rfl

theorem apply_edits_of_inside (edits : List Edit) (lines : List Bytes)
    (inside : ∀ edit ∈ edits, Inside lines edit.line) :
    applyEdits edits lines = ⟨lines.mapIdx (changed edits), none⟩ := by
  have all : reached edits lines = edits := by
    rw [reached, List.takeWhile_eq_self_iff]
    simpa using inside
  have none : firstOutside edits lines = none := by
    simpa [firstOutside] using inside
  rw [apply_edits_eq, all, none]
  rfl

theorem apply_edits_inside_of_done {edits : List Edit} {lines done : List Bytes}
    (result : applyEdits edits lines = ⟨done, none⟩) : ∀ edit ∈ edits, Inside lines edit.line := by
  have none := congrArg Edited.problem result
  rw [apply_edits_eq, Option.map_eq_none_iff] at none
  simpa [firstOutside] using none

theorem apply_edits_problem {edits : List Edit} {lines done : List Bytes}
    {problem : Diagnostic.Problem} (result : applyEdits edits lines = ⟨done, some problem⟩) :
    ∃ edit ∈ edits, ¬ Inside lines edit.line ∧
      problem = .ofOutside edit.line lines.length := by
  have told := congrArg Edited.problem result
  rw [apply_edits_eq, Option.map_eq_some_iff] at told
  obtain ⟨edit, first, same⟩ := told
  exact ⟨edit, List.mem_of_find?_eq_some first, by simpa using List.find?_some first, same.symm⟩

/-! Appending to a line in parts and at once. -/

/-- The carriage return that a line ends in, if it does. -/
def ending (line : Bytes) : Bytes :=
  if line.getLast? = some carriageReturn then [carriageReturn] else []

def body (line : Bytes) : Bytes :=
  if line.getLast? = some carriageReturn then line.dropLast else line

theorem body_append_ending (line : Bytes) : body line ++ ending line = line := by
  unfold body ending
  split
  · next closed =>
    obtain ⟨front, rfl⟩ := List.getLast?_eq_some_iff.mp closed
    simp
  · simp

theorem ending_cases (line : Bytes) : ending line = [] ∨ ending line = [carriageReturn] := by
  unfold ending
  split <;> simp

theorem append_before_return_eq (addition line : Bytes) :
    appendBeforeReturn addition line = body line ++ addition ++ ending line := by
  unfold appendBeforeReturn body ending
  split <;> simp

theorem append_before_return_nil (line : Bytes) : appendBeforeReturn [] line = line := by
  rw [append_before_return_eq, List.append_nil, body_append_ending]

theorem append_before_return_append (first second line : Bytes)
    (unclosed : first.getLast? ≠ some carriageReturn) :
    appendBeforeReturn second (appendBeforeReturn first line) =
      appendBeforeReturn (first ++ second) line := by
  by_cases closed : line.getLast? = some carriageReturn
  · simp [appendBeforeReturn, closed]
  · simp [appendBeforeReturn, closed, unclosed]

theorem append_before_return_of_front (front addition line : Bytes)
    (unclosed : front.getLast? ≠ some carriageReturn) :
    appendBeforeReturn addition (front ++ line) = front ++ appendBeforeReturn addition line := by
  cases shape : line.getLast? with
  | none =>
      rw [List.getLast?_eq_none_iff] at shape
      simp [appendBeforeReturn, shape, unclosed]
  | some last =>
      have nonempty : line ≠ [] := fun empty => by simp [empty] at shape
      by_cases closed : last = carriageReturn
      · simp [appendBeforeReturn, List.getLast?_append, shape, closed,
          List.dropLast_append_of_ne_nil nonempty]
      · simp [appendBeforeReturn, List.getLast?_append, shape, closed]

/-! The three edits of a toggle. -/

def namesOn (findings : List Finding) (index : Nat) : List Text :=
  (findings.filter fun finding => finding.line = (index : Int)).map Finding.name

def usagesOn (marker : Marker) (findings : List Finding) (index : Nat) : Bytes :=
  (namesOn findings index).flatMap marker.render

theorem render_last (marker : Marker) (name : Text) :
    (marker.render name).getLast? = some slash := by
  have shape : marker.render name = Marker.opening ++ space :: Utf8.encode name ++
      (space :: Marker.ascii ['/', '*', ' ', 'T', 'O', 'D', 'O', ':', ' '] ++
        Utf8.encode marker.tool ++ Marker.ascii [' ', '*']) ++ [slash] := by
    simp [Marker.render, Marker.closing, Marker.comment, Marker.ascii, slash]
  rw [shape, List.getLast?_concat]

theorem changed_append (marker : Marker) (findings : List Finding) (index : Nat) (line : Bytes) :
    changed (findings.map fun finding =>
        ⟨finding.line, appendBeforeReturn (marker.render finding.name)⟩) index line =
      appendBeforeReturn (usagesOn marker findings index) line := by
  induction findings generalizing line with
  | nil => exact (append_before_return_nil line).symm
  | cons finding rest ih =>
      rw [List.map_cons, changed_cons, ih]
      by_cases named : finding.line = (index : Int)
      · have unclosed : (marker.render finding.name).getLast? ≠ some carriageReturn := by
          rw [render_last]
          decide
        rw [if_pos named, append_before_return_append _ _ _ unclosed]
        simp [usagesOn, namesOn, named]
      · rw [if_neg named]
        simp [usagesOn, namesOn, named]

theorem append_usages_of_inside (marker : Marker) (findings : List Finding) (lines : List Bytes)
    (inside : ∀ finding ∈ findings, Inside lines finding.line) :
    appendUsages marker findings lines =
      ⟨lines.mapIdx fun index line => appendBeforeReturn (usagesOn marker findings index) line,
        none⟩ := by
  rw [appendUsages, apply_edits_of_inside _ _ (by simpa using inside)]
  congr 2
  funext index line
  exact changed_append marker findings index line

/-- As many comment marks as a line was commented out. -/
def commentFront (depth : Nat) : Bytes := (List.replicate depth commentMark).flatten

theorem comment_front_succ (depth : Nat) (line : Bytes) :
    commentFront (depth + 1) ++ line = comment (commentFront depth ++ line) := by
  simp [commentFront, comment, List.replicate_succ]

theorem comment_front_comment (depth : Nat) (line : Bytes) :
    commentFront depth ++ comment line = commentFront (depth + 1) ++ line := by
  simp [commentFront, comment, List.replicate_succ']

theorem comment_front_last (depth : Nat) :
    (commentFront depth).getLast? ≠ some carriageReturn := by
  cases depth with
  | zero => simp [commentFront]
  | succ depth =>
      have shape : commentFront (depth + 1) = commentFront depth ++ [slash, slash] ++ [space] := by
        simp [commentFront, List.replicate_succ', commentMark]
      rw [shape, List.getLast?_concat]
      decide

theorem changed_comment (numbers : List Int) (index : Nat) (line : Bytes) :
    changed (numbers.map fun number => ⟨number, comment⟩) index line =
      commentFront (numbers.count (index : Int)) ++ line := by
  induction numbers generalizing line with
  | nil => rfl
  | cons number rest ih =>
      rw [List.map_cons, changed_cons, ih, List.count_cons]
      by_cases named : number = (index : Int)
      · simp only [named, beq_self_eq_true, if_true, comment_front_comment]
      · simp [named]

theorem changed_drop_comment (numbers : List Int) (index : Nat) (line : Bytes) :
    changed (numbers.map fun number => ⟨number, dropComment⟩) index
      (commentFront (numbers.count (index : Int)) ++ line) = line := by
  induction numbers with
  | nil => rfl
  | cons number rest ih =>
      rw [List.map_cons, changed_cons, List.count_cons]
      by_cases named : number = (index : Int)
      · simp only [named, beq_self_eq_true, if_true, comment_front_succ,
          drop_comment_comment]
        exact ih
      · simpa [named] using ih

theorem comment_out_of_inside (numbers : List Int) (lines : List Bytes)
    (inside : ∀ number ∈ numbers, Inside lines number) :
    commentOut numbers lines =
      ⟨⟨lines.mapIdx fun index line => commentFront (numbers.count (index : Int)) ++ line, none⟩,
        numbers⟩ := by
  have taken : (numbers.takeWhile fun number => Inside lines number) = numbers :=
    List.takeWhile_eq_self_iff.mpr (by simpa using inside)
  rw [commentOut, apply_edits_of_inside _ _ (by simpa using inside), taken]
  congr 3
  funext index line
  exact changed_comment numbers index line

theorem inside_of_commented {numbers hidden : List Int} {lines commented : List Bytes}
    (done : commentOut numbers lines = ⟨⟨commented, none⟩, hidden⟩) :
    (∀ number ∈ numbers, Inside lines number) ∧ hidden = numbers := by
  have edited := congrArg Commented.toEdited done
  have inside : ∀ number ∈ numbers, Inside lines number := by
    simpa using apply_edits_inside_of_done edited
  refine ⟨inside, ?_⟩
  rw [comment_out_of_inside numbers lines inside] at done
  exact (congrArg Commented.numbers done).symm

/-- Commenting lines out and adding usages come to the same in either order: marks go to the front of
a line and usages to its end. -/
theorem append_comment_commute (marker : Marker) (numbers : List Int) (findings : List Finding)
    (lines : List Bytes) (inside : ∀ number ∈ numbers, Inside lines number)
    (findingsInside : ∀ finding ∈ findings, Inside lines finding.line) :
    appendUsages marker findings (commentOut numbers lines).lines =
      (commentOut numbers (appendUsages marker findings lines).lines).toEdited := by
  rw [comment_out_of_inside numbers lines inside,
    append_usages_of_inside _ _ _ (by simpa [Inside] using findingsInside),
    append_usages_of_inside _ _ _ findingsInside,
    comment_out_of_inside _ _ (by simpa [Inside] using inside)]
  congr 1
  rw [List.mapIdx_mapIdx, List.mapIdx_mapIdx]
  congr 1
  funext index line
  exact append_before_return_of_front _ _ _ (comment_front_last _)

theorem uncomment_comment_out {numbers order : List Int} (reordered : order.Perm numbers)
    (lines : List Bytes) (inside : ∀ number ∈ numbers, Inside lines number) :
    uncomment order (commentOut numbers lines).lines = ⟨lines, none⟩ := by
  have named : ∀ number ∈ order, Inside lines number := fun number member =>
    inside number (reordered.mem_iff.mp member)
  rw [comment_out_of_inside numbers lines inside, uncomment,
    apply_edits_of_inside _ _ (by simpa [Inside] using named), List.mapIdx_mapIdx]
  congr 1
  apply List.ext_getElem?
  intro index
  rw [List.getElem?_mapIdx]
  cases lines[index]? with
  | none => rfl
  | some line =>
      rw [Option.map_some, Function.comp_apply, ← reordered.count_eq, changed_drop_comment]

/-- Usages that are added while some lines are commented out are where they would be without. -/
theorem uncomment_append_comment (marker : Marker) {numbers order : List Int}
    (reordered : order.Perm numbers) (findings : List Finding) (lines : List Bytes)
    (inside : ∀ number ∈ numbers, Inside lines number)
    (findingsInside : ∀ finding ∈ findings, Inside lines finding.line) :
    uncomment order (appendUsages marker findings (commentOut numbers lines).lines).lines =
      appendUsages marker findings lines := by
  rw [append_comment_commute marker numbers findings lines inside findingsInside,
    append_usages_of_inside _ _ _ findingsInside]
  exact uncomment_comment_out reordered _ (by simpa [Inside] using inside)

theorem append_usages_of_commented {marker : Marker} {numbers hidden : List Int}
    {findings : List Finding} {lines commented marked restored : List Bytes}
    (done : commentOut numbers lines = ⟨⟨commented, none⟩, hidden⟩)
    (appended : appendUsages marker findings commented = ⟨marked, none⟩)
    (uncommented : uncomment hidden marked = ⟨restored, none⟩) :
    appendUsages marker findings lines = ⟨restored, none⟩ := by
  obtain ⟨inside, rfl⟩ := inside_of_commented done
  have length : commented.length = lines.length := by
    rw [comment_out_of_inside hidden lines inside] at done
    cases done
    simp
  have findingsInside : ∀ finding ∈ findings, Inside lines finding.line := by
    have within := apply_edits_inside_of_done appended
    simpa [Inside, length] using within
  have same := uncomment_append_comment marker (List.Perm.refl hidden) findings lines inside
    findingsInside
  rw [done, appended, uncommented] at same
  exact same.symm

/-- Commenting lines out around the adding of usages leaves no trace, whatever bytes the lines are
made of. All edits go through, so the numbers that come back are those that were named. The order of
the first two edits makes no difference, and taking the marks back, in any order of those numbers,
leaves the buffer that the usages alone would have left. Without usages that is the buffer as it was. -/
theorem commenting_leaves_no_trace (marker : Marker) (lines : List Bytes) (numbers : List Int)
    (inside : ∀ number ∈ numbers, Inside lines number) (findings : List Finding)
    (findingsInside : ∀ finding ∈ findings, Inside lines finding.line) (order : List Int)
    (reordered : order.Perm (commentOut numbers lines).numbers) :
    ∃ commented marked used,
      commentOut numbers lines = ⟨⟨commented, none⟩, numbers⟩ ∧
      appendUsages marker findings commented = ⟨marked, none⟩ ∧
      appendUsages marker findings lines = ⟨used, none⟩ ∧
      commentOut numbers used = ⟨⟨marked, none⟩, numbers⟩ ∧
      uncomment order marked = ⟨used, none⟩ ∧
      (findings = [] → used = lines) := by
  have commented := comment_out_of_inside numbers lines inside
  have appended := append_usages_of_inside marker findings lines findingsInside
  rw [commented] at reordered
  have commuted := append_comment_commute marker numbers findings lines inside findingsInside
  have undone := uncomment_append_comment marker reordered findings lines inside findingsInside
  have hiddenInside : ∀ finding ∈ findings,
      Inside (commentOut numbers lines).lines finding.line := by
    simpa [commented, Inside] using findingsInside
  have marked := append_usages_of_inside marker findings _ hiddenInside
  have again := comment_out_of_inside numbers (appendUsages marker findings lines).lines
    (by simpa [appended, Inside] using inside)
  rw [again] at commuted
  rw [commented] at commuted undone marked
  refine ⟨_, _, _, commented, marked, appended, ?_, ?_, ?_⟩
  · rw [appended, marked] at commuted
    rw [appended] at again
    rw [again, commuted]
  · rw [appended, marked] at undone
    exact undone
  · rintro rfl
    exact (congrArg Edited.lines appended).symm

/-- Two usages on a line that breaks off inside a character before its carriage return, while it and a
line of a stray byte are commented out, the latter twice. -/
theorem commenting_leaves_no_trace_broken :
    let lines : List Bytes := [[0xE2, 0x82, carriageReturn], [0xFF], []]
    let numbers : List Int := [1, 0, 1]
    let findings : List Finding := [⟨['v'], 0⟩, ⟨['w'], 2⟩, ⟨['x'], 0⟩]
    (∀ number ∈ numbers, Inside lines number) ∧
      (∀ finding ∈ findings, Inside lines finding.line) ∧
      ∃ commented marked used,
        commentOut numbers lines = ⟨⟨commented, none⟩, numbers⟩ ∧
        appendUsages ⟨['t']⟩ findings commented = ⟨marked, none⟩ ∧
        appendUsages ⟨['t']⟩ findings lines = ⟨used, none⟩ ∧
        commentOut numbers used = ⟨⟨marked, none⟩, numbers⟩ ∧
        uncomment [1, 1, 0] marked = ⟨used, none⟩ ∧
        (findings = [] → used = lines) := by
  intro lines numbers findings
  have inside : ∀ number ∈ numbers, Inside lines number := by decide
  have findingsInside : ∀ finding ∈ findings, Inside lines finding.line := by decide
  exact ⟨inside, findingsInside, commenting_leaves_no_trace ⟨['t']⟩ lines numbers inside findings
    findingsInside [1, 1, 0] (by decide)⟩

end BlankUse.LineBuffer
