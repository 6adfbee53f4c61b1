import BlankUse.Proofs.Deletion
import BlankUse.Proofs.Lines
import BlankUse.Proofs.Occurrence

/-!
Code as what is kept of it with pieces put in. Pieces never overlap, and whether a piece may stand
somewhere can depend on the byte in front of it. Deleting every match of a pattern leaves code that
the deleted matches can be put back into. Such a view of code can be split wherever no piece lies
across the border, and text in which no piece starts is kept.
-/

namespace BlankUse

/-- The code is what is kept with pieces put in, each of which fits behind the byte before it. -/
inductive Inserted (fits : Option UInt8 → Bytes → Prop) : Option UInt8 → Bytes → Bytes → Prop
  | nil (before : Option UInt8) : Inserted fits before [] []
  | keep {before : Option UInt8} {kept code : Bytes} (byte : UInt8)
      (rest : Inserted fits (some byte) kept code) :
      Inserted fits before (byte :: kept) (byte :: code)
  | insert {before : Option UInt8} {piece kept code : Bytes} (fit : fits before piece)
      (rest : Inserted fits (piece.getLast?.or before) kept code) :
      Inserted fits before kept (piece ++ code)

namespace Inserted

variable {fits : Option UInt8 → Bytes → Prop} {before : Option UInt8} {kept code : Bytes}

theorem refl (before : Option UInt8) (code : Bytes) : Inserted fits before code code := by
  induction code generalizing before with
  | nil => exact nil before
  | cons byte rest ih => exact keep byte (ih (some byte))

theorem last_or_append (front back : Bytes) (before : Option UInt8) :
    (front ++ back).getLast?.or before = back.getLast?.or (front.getLast?.or before) := by
  rw [List.getLast?_append, Option.or_assoc]

theorem last_or_cons (byte : UInt8) (rest : Bytes) (before : Option UInt8) :
    (byte :: rest).getLast?.or before = rest.getLast?.or (some byte) :=
  last_or_append [byte] rest before

theorem append {laterKept laterCode : Bytes} (first : Inserted fits before kept code)
    (second : Inserted fits (code.getLast?.or before) laterKept laterCode) :
    Inserted fits before (kept ++ laterKept) (code ++ laterCode) := by
  induction first with
  | nil before => simpa using second
  | keep byte rest ih =>
      rw [last_or_cons] at second
      exact keep byte (ih second)
  | insert fit rest ih =>
      rw [last_or_append] at second
      rw [List.append_assoc]
      exact insert fit (ih second)

theorem single {piece : Bytes} (fit : fits before piece) : Inserted fits before [] piece := by
  have alone := insert fit (nil (piece.getLast?.or before))
  rwa [List.append_nil] at alone

theorem first_piece (whole : Inserted fits before [] code) (nonempty : code ≠ []) :
    ∃ piece rest, code = piece ++ rest ∧ fits before piece ∧
      Inserted fits (piece.getLast?.or before) [] rest := by
  cases whole with
  | nil => exact absurd rfl nonempty
  | insert fit rest => exact ⟨_, _, rfl, fit, rest⟩

/-- A view of code is split at a border that no piece lies across. -/
theorem split {front back : Bytes} (whole : Inserted fits before kept (front ++ back))
    (clear : ∀ context ahead piece behind, fits context piece →
      front ++ back = ahead ++ piece ++ behind →
      (ahead ++ piece).length ≤ front.length ∨ front.length ≤ ahead.length) :
    ∃ early late, kept = early ++ late ∧ Inserted fits before early front ∧
      Inserted fits (front.getLast?.or before) late back := by
  generalize joined : front ++ back = code at whole
  induction whole generalizing front with
  | nil before =>
      obtain ⟨rfl, rfl⟩ := List.append_eq_nil_iff.mp joined
      exact ⟨[], [], rfl, nil before, nil _⟩
  | @keep before kept code byte rest ih =>
      cases front with
      | nil =>
          obtain rfl : back = byte :: code := joined
          exact ⟨[], byte :: kept, rfl, nil before, keep byte rest⟩
      | cons first front =>
          obtain ⟨rfl, remaining⟩ := List.cons_eq_cons.mp joined
          have later : ∀ context ahead piece behind, fits context piece →
              front ++ back = ahead ++ piece ++ behind →
              (ahead ++ piece).length ≤ front.length ∨ front.length ≤ ahead.length := by
            intro context ahead piece behind fit shape
            have bounds := clear context (first :: ahead) piece behind fit (by simp [shape])
            simpa using bounds
          obtain ⟨early, late, rfl, left, right⟩ := ih later remaining
          refine ⟨first :: early, late, rfl, keep first left, ?_⟩
          rwa [last_or_cons]
  | @insert before piece kept code fit rest ih =>
      by_cases empty : front = []
      · subst empty
        obtain rfl : back = piece ++ code := joined
        exact ⟨[], kept, rfl, nil before, insert fit rest⟩
      · have size := List.length_pos_iff.mpr empty
        have within : piece.length ≤ front.length := by
          have bounds := clear before [] piece code fit joined
          simp only [List.nil_append, List.length_nil] at bounds
          omega
        obtain ⟨tail, rfl⟩ : piece <+: front :=
          List.prefix_of_prefix_length_le (joined ▸ List.prefix_append piece code)
            (List.prefix_append front back) within
        rw [List.append_assoc, List.append_cancel_left_eq] at joined
        have later : ∀ context ahead other behind, fits context other →
            tail ++ back = ahead ++ other ++ behind →
            (ahead ++ other).length ≤ tail.length ∨ tail.length ≤ ahead.length := by
          intro context ahead other behind fit shape
          have bounds := clear context (piece ++ ahead) other behind fit (by simp [shape])
          simp only [List.length_append] at bounds ⊢
          omega
        obtain ⟨early, late, rfl, left, right⟩ := ih later joined
        refine ⟨early, late, rfl, insert fit left, ?_⟩
        rwa [last_or_append]

theorem kept_front {front back : Bytes} (whole : Inserted fits before kept (front ++ back))
    (absent : ∀ context ahead piece behind, fits context piece →
      front ++ back = ahead ++ piece ++ behind → front.length ≤ ahead.length) :
    ∃ late, kept = front ++ late ∧ Inserted fits (front.getLast?.or before) late back := by
  induction front generalizing before kept with
  | nil => exact ⟨kept, rfl, whole⟩
  | cons first front ih =>
      generalize joined : first :: front ++ back = code at whole
      cases whole with
      | nil => cases joined
      | @keep _ kept code byte rest =>
          obtain ⟨rfl, rfl⟩ := List.cons_eq_cons.mp joined
          obtain ⟨late, rfl, later⟩ := ih rest (by
            intro context ahead piece behind fit shape
            have bound := absent context (first :: ahead) piece behind fit (by simp [shape])
            simpa using bound)
          refine ⟨late, rfl, ?_⟩
          rwa [last_or_cons]
      | insert fit rest =>
          have bound := absent _ [] _ _ fit joined
          simp at bound

theorem count_le (whole : Inserted fits before kept code) (byte : UInt8) :
    kept.count byte ≤ code.count byte := by
  induction whole with
  | nil before => exact Nat.le_refl _
  | keep first rest ih =>
      rw [List.count_cons, List.count_cons]
      omega
  | insert fit rest ih =>
      rw [List.count_append]
      omega

/-- If what is kept holds a byte as often as the code, no piece holds that byte. -/
theorem free_of_count (whole : Inserted fits before kept code) {byte : UInt8}
    (same : kept.count byte = code.count byte) :
    Inserted (fun context piece => fits context piece ∧ byte ∉ piece) before kept code := by
  induction whole with
  | nil before => exact nil before
  | keep first rest ih =>
      rw [List.count_cons, List.count_cons] at same
      exact keep first (ih (by omega))
  | @insert before piece kept code fit rest ih =>
      have fewer := rest.count_le byte
      rw [List.count_append] at same
      have free : byte ∉ piece := List.count_eq_zero.mp (by omega)
      exact insert ⟨fit, free⟩ (ih (by omega))

theorem mono {other : Option UInt8 → Bytes → Prop} (whole : Inserted fits before kept code)
    (weaker : ∀ context piece, fits context piece → other context piece) :
    Inserted other before kept code := by
  induction whole with
  | nil before => exact nil before
  | keep byte rest ih => exact keep byte ih
  | insert fit rest ih => exact insert (weaker _ _ fit) ih

end Inserted

theorem Pattern.delete_all_inserted {pattern : Pattern} {fits : Option UInt8 → Bytes → Prop}
    (proper : pattern.Proper) (front code : Bytes)
    (fit : ∀ ahead piece behind, front ++ code = ahead ++ (piece ++ behind) →
      pattern (piece ++ behind) = some piece.length → fits ahead.getLast? piece) :
    Inserted fits front.getLast? (pattern.deleteAll code).bytes code := by
  revert front
  refine delete_all_induction proper (motive := fun code deleted => ∀ front,
    (∀ ahead piece behind, front ++ code = ahead ++ (piece ++ behind) →
      pattern (piece ++ behind) = some piece.length → fits ahead.getLast? piece) →
    Inserted fits front.getLast? deleted.bytes code) ?_ ?_ ?_ code
  · intro front _
    exact Inserted.nil _
  · intro byte rest deleted _ ih front fit
    have later := ih (front ++ [byte]) fun ahead piece behind same =>
      fit ahead piece behind (by rw [← same]; simp)
    rw [List.getLast?_concat] at later
    exact Inserted.keep byte later
  · intro piece rest deleted matched ih front fit
    have later := ih (front ++ piece) fun ahead other behind same =>
      fit ahead other behind (by rw [← same]; simp)
    rw [List.getLast?_append] at later
    exact Inserted.insert (fit front piece rest rfl matched) later

/-! Pieces in code and pieces in its lines. -/

namespace LineBuffer

open Byte

theorem inserted_lines {fits : Option UInt8 → Bytes → Prop} (change : Bytes → Bytes)
    (lines : List Bytes)
    (each : ∀ line ∈ lines, ∀ context, (∀ byte ∈ context, byte = newline) →
      Inserted fits context (change line) line) :
    Inserted fits none (toCode (lines.map change)) (toCode lines) := by
  cases lines with
  | nil => exact Inserted.nil none
  | cons line rest =>
      have behind : ∀ (context : Option UInt8) (later : List Bytes), later ⊆ rest →
          Inserted fits context ((later.map change).flatMap (newline :: ·))
            (later.flatMap (newline :: ·)) := by
        intro context later
        induction later generalizing context with
        | nil => exact fun _ => Inserted.nil context
        | cons next later ih =>
            intro subset
            obtain ⟨member, others⟩ := List.cons_subset.mp subset
            have here := each next (by simp [member]) (some newline) (by simp)
            exact Inserted.keep newline (here.append (ih _ others))
      rw [List.map_cons, to_code_cons, to_code_cons]
      exact (each line (by simp) none (by simp)).append (behind _ rest (List.Subset.refl rest))

theorem before_or_behind_newline {front back ahead piece behind : Bytes}
    (same : front ++ newline :: back = ahead ++ piece ++ behind) (free : newline ∉ piece) :
    (ahead ++ piece).length ≤ front.length ∨ front.length ≤ ahead.length := by
  rcases append_eq_append_cons same.symm with ⟨inner, ends, -⟩ | ⟨inner, ends, -⟩
  · rcases append_eq_append_cons ends with ⟨deep, passed, -⟩ | ⟨deep, -, inside⟩
    · right
      rw [passed, List.length_append]
      omega
    · exact absurd (by simp [inside]) free
  · left
    have sizes := congrArg List.length ends
    simp only [List.length_append] at sizes ⊢
    omega

theorem first_newline_unique {first second back rest : Bytes} (free : newline ∉ first)
    (otherFree : newline ∉ second) (same : first ++ newline :: back = second ++ newline :: rest) :
    first = second ∧ back = rest := by
  rcases append_eq_append_cons same with ⟨inner, held, -⟩ | ⟨inner, held, behind⟩
  · exact absurd (by simp [held]) free
  · cases inner with
    | nil => exact ⟨by simpa using held.symm, ((List.cons_eq_cons.mp behind).2)⟩
    | cons next inner =>
        have next := (List.cons_eq_cons.mp behind).1
        exact absurd (by simp [held, ← next]) otherFree

/-- Pieces without line feeds that are put into the code are put into its lines. -/
theorem inserted_line {fits : Option UInt8 → Bytes → Prop} {context : Option UInt8}
    (change : Bytes → Bytes) (lines : List Bytes) (free : ∀ line ∈ lines, newline ∉ line)
    (changedFree : ∀ line ∈ lines, newline ∉ change line)
    (pieceFree : ∀ context piece, fits context piece → piece ≠ [] ∧ newline ∉ piece)
    (whole : Inserted fits context (toCode (lines.map change)) (toCode lines)) :
    ∀ line ∈ lines, ∃ before, Inserted fits before (change line) line := by
  induction lines generalizing context with
  | nil => simp
  | cons line rest ih =>
      cases rest with
      | nil =>
          intro other member
          obtain rfl := List.mem_singleton.mp member
          exact ⟨context, by simpa [toCode] using whole⟩
      | cons next rest =>
          have joined (first second : Bytes) (others : List Bytes) :
              toCode (first :: second :: others) = first ++ newline :: toCode (second :: others) := by
            rw [to_code_cons, to_code_cons]
            simp
          simp only [List.map_cons, joined] at whole
          obtain ⟨early, late, kept, left, right⟩ := whole.split fun context _ piece _ fit same =>
            before_or_behind_newline same (pieceFree context piece fit).2
          have unbroken : newline ∉ early := by
            have fewer := left.count_le newline
            rw [List.count_eq_zero.mpr (free line (by simp))] at fewer
            exact List.count_eq_zero.mp (by omega)
          have starts : ∃ later, late = [newline] ++ later ∧
              Inserted fits (some newline) later (toCode (next :: rest)) := by
            refine right.kept_front ?_
            intro context ahead piece behind fit same
            cases ahead with
            | cons first ahead => simp
            | nil =>
                obtain ⟨filled, unheld⟩ := pieceFree context piece fit
                obtain ⟨first, piece, rfl⟩ := List.exists_cons_of_ne_nil filled
                have first := (List.cons_eq_cons.mp same).1
                exact absurd (by simp [first]) unheld
          obtain ⟨later, rfl, follows⟩ := starts
          obtain ⟨rfl, rfl⟩ := first_newline_unique (changedFree line (by simp)) unbroken kept
          intro other member
          rcases List.mem_cons.mp member with rfl | behind
          · exact ⟨context, left⟩
          · exact ih (fun line inside => free line (by simp [inside]))
              (fun line inside => changedFree line (by simp [inside])) follows other behind

end LineBuffer

end BlankUse
