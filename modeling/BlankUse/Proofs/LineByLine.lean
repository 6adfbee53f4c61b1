import BlankUse.Proofs.UsageRemoval
import Mathlib.Data.List.Forall2

/-!
The appended form is removed line by line, whatever the name of the tool, as long as it fits on a
line. A line is cut if an opening stands in it with a closing somewhere behind. What goes is all from
the first opening of the line through its last closing, which is behind that opening because some
closing is. A carriage return at the end of a line is behind every closing and stays.
-/

namespace BlankUse.Marker

open Byte LineBuffer

def Encloses (marker : Marker) (line : Bytes) : Prop :=
  ∃ before inside after, line = before ++ (opening ++ inside ++ marker.closing) ++ after

/-- What is left of a line: both ends of a line that is cut, and all of any other. -/
inductive LeftOf (marker : Marker) (line : Bytes) : Bytes → Prop
  | ends {before inside after : Bytes} (taken : marker.Taken line before inside after) :
      LeftOf marker line (before ++ after)
  | whole (unclosed : ¬ marker.Encloses line) : LeftOf marker line line

variable {marker : Marker} {line kept : Bytes}

theorem cut_is_some_iff : (marker.cut? line).isSome = true ↔ marker.Encloses line := by
  constructor
  · intro cut
    obtain ⟨kept, cut⟩ := Option.isSome_iff_exists.mp cut
    obtain ⟨before, inside, after, taken, -⟩ := taken_of_cut cut
    exact ⟨before, inside, after, taken.shape⟩
  · rintro ⟨before, inside, after, shape⟩
    by_contra uncut
    rw [Option.not_isSome_iff_eq_none] at uncut
    -- The first opening is not behind this one, so this closing is behind the first opening too.
    cases opens : line.dropInfix? opening with
    | none =>
        apply drop_infix_eq_none.mp opens
        exact ⟨before, inside ++ marker.closing ++ after, by simp [shape]⟩
    | some parts =>
        obtain ⟨front, behind⟩ := parts
        obtain ⟨split, first⟩ := drop_infix_eq_some.mp opens
        have earlier : front.length ≤ before.length :=
          first before (inside ++ marker.closing ++ after) (by simp [shape])
        have later : inside ++ marker.closing ++ after <:+ behind := by
          have inner : inside ++ marker.closing ++ after <:+ line :=
            ⟨before ++ opening, by simp [shape]⟩
          have outer : behind <:+ line := ⟨front ++ opening, split.symm⟩
          apply List.suffix_of_suffix_length_le inner outer
          have sizes := congrArg List.length (shape.symm.trans split)
          simp only [List.length_append] at sizes ⊢
          omega
        have missing : afterLast marker.closing behind = none := by
          rw [Option.eq_none_iff_forall_ne_some]
          simpa [cut?, opens] using uncut
        apply after_last_eq_none.mp missing
        have closed : marker.closing <:+: inside ++ marker.closing ++ after := ⟨inside, after, rfl⟩
        exact closed.trans later.isInfix

instance (marker : Marker) (line : Bytes) : Decidable (marker.Encloses line) :=
  decidable_of_iff _ cut_is_some_iff

theorem cut_eq_none_iff : marker.cut? line = none ↔ ¬ marker.Encloses line := by
  rw [← cut_is_some_iff, Option.not_isSome_iff_eq_none]

theorem left_of_kept (marker : Marker) (line : Bytes) : marker.LeftOf line (marker.keptOf line) := by
  unfold keptOf
  cases cut : marker.cut? line with
  | none => exact .whole (cut_eq_none_iff.mp cut)
  | some kept =>
      obtain ⟨before, inside, after, taken, rfl⟩ := taken_of_cut cut
      exact .ends taken

theorem LeftOf.of_unclosed (left : marker.LeftOf line kept) (unclosed : ¬ marker.Encloses line) :
    kept = line := by
  cases left with
  | ends taken => exact absurd ⟨_, _, _, taken.shape⟩ unclosed
  | whole => rfl

/-- A closing ends in a slash, so a carriage return at the end of a line is behind the last one. -/
theorem LeftOf.carriage_return (left : marker.LeftOf line kept)
    (returned : line.getLast? = some carriageReturn) : kept.getLast? = some carriageReturn := by
  cases left with
  | whole => exact returned
  | @ends before inside after taken =>
      by_cases nothing : after = []
      · obtain ⟨front, closed⟩ := closing_last marker
        rw [taken.shape, nothing, closed, List.append_nil, ← List.append_assoc, ← List.append_assoc,
          List.getLast?_concat] at returned
        exact absurd returned (by decide)
      · rw [taken.shape, List.getLast?_append_of_ne_nil _ nothing] at returned
        rw [List.getLast?_append_of_ne_nil _ nothing, returned]

theorem encode_newline_free {text : Text} (free : '\n' ∉ text) : newline ∉ Utf8.encode text := by
  intro inside
  obtain ⟨c, member, made⟩ := List.mem_flatMap.mp inside
  rcases Utf8.encode_char_byte made with ⟨-, same⟩ | above
  · have value : c.toNat = '\n'.toNat := same.symm
    exact free (Char.toNat_inj.mp value ▸ member)
  · exact absurd above (by decide)

theorem closing_free_of_tool (free : '\n' ∉ marker.tool) : newline ∉ marker.closing := by
  have fixed : newline ∉ closingFrame := by decide
  have spelled := encode_newline_free free
  simp only [closing, comment, closingFrame, ascii, List.map_cons, List.map_nil, List.mem_cons,
    List.mem_append, List.not_mem_nil, or_false, not_or] at fixed ⊢
  tauto

theorem strip_appended_iff (marker : Marker) (code : Bytes) (count : Nat) (left : Bytes) :
    marker.strip code = some ⟨.appended, count, left⟩ ↔
      count ≠ 0 ∧ Pattern.deleteAll marker.appended code = ⟨left, count⟩ := by
  constructor
  · intro stripped
    rcases strip_cases stripped with ⟨counted, same⟩ | ⟨-, same⟩
    · cases same
      exact ⟨counted, rfl⟩
    · cases same
  · rintro ⟨counted, deleted⟩
    have stripped := strip_of_appended code (by rwa [deleted])
    rwa [deleted] at stripped

theorem removal_message (removal : Removal) :
    removal.message =
      "Removed " ++ toString removal.count ++ (" " ++ removal.form.word ++ " fake usage(s)") := by
  rw [← String.append_assoc, ← String.append_assoc]
  rfl

theorem appended_message (count : Nat) (left : Bytes) :
    Removal.message ⟨.appended, count, left⟩ =
      "Removed " ++ toString count ++ " canonical fake usage(s)" := by
  have words : " " ++ Form.word .appended ++ " fake usage(s)" = " canonical fake usage(s)" := by decide
  rw [removal_message, words]

theorem delete_enclosed (closingFree : newline ∉ marker.closing) (code : Bytes) :
    Pattern.deleteAll marker.appended code =
      ⟨toCode ((ofCode code).map marker.keptOf), (ofCode code).countP (marker.Encloses ·)⟩ := by
  rw [delete_appended closingFree]
  congr 1
  apply List.countP_congr
  intro line _
  simp [cut_is_some_iff]

theorem of_code_kept (marker : Marker) (code : Bytes) :
    ofCode (toCode ((ofCode code).map marker.keptOf)) = (ofCode code).map marker.keptOf := by
  apply of_code_to_code
  · simp [of_code_ne_nil]
  · intro kept member
    obtain ⟨line, inside, rfl⟩ := List.mem_map.mp member
    exact kept_of_free (of_code_newline_free code line inside)

/-- Removal in the appended form is a cut of every line. It takes place exactly if some line is to be
cut. Then each line is cut on its own from its first opening through its last closing, or left as it
is, and the number of cut lines is told. No line comes or goes, and none loses the carriage return at
its end. -/
theorem strip_cuts_line_by_line (marker : Marker) (fits : '\n' ∉ marker.tool) (code : Bytes) :
    ((∃ count left, marker.strip code = some ⟨.appended, count, left⟩) ↔
      ∃ line ∈ ofCode code, marker.Encloses line) ∧
    ∀ count left, marker.strip code = some ⟨.appended, count, left⟩ →
      (∃ lines, left = toCode lines ∧ ofCode left = lines ∧
        List.Forall₂ marker.LeftOf (ofCode code) lines) ∧
      count = (ofCode code).countP (marker.Encloses ·) ∧
      Removal.message ⟨.appended, count, left⟩ =
        "Removed " ++ toString ((ofCode code).countP (marker.Encloses ·)) ++
          " canonical fake usage(s)" ∧
      (ofCode left).length = (ofCode code).length ∧
      ∀ (index : Nat) (line kept : Bytes),
        (ofCode code)[index]? = some line → (ofCode left)[index]? = some kept →
          (¬ marker.Encloses line → kept = line) ∧
          (line.getLast? = some carriageReturn → kept.getLast? = some carriageReturn) := by
  simp only [strip_appended_iff, delete_enclosed (closing_free_of_tool fits)]
  constructor
  · have counted : (ofCode code).countP (marker.Encloses ·) ≠ 0 ↔
        ∃ line ∈ ofCode code, marker.Encloses line := by
      simp
    rw [← counted]
    simp
  · rintro count left ⟨-, deleted⟩
    cases deleted
    rw [of_code_kept]
    refine ⟨⟨_, rfl, rfl, ?_⟩, rfl, appended_message _ _, by simp, ?_⟩
    · rw [List.forall₂_map_right_iff, List.forall₂_same]
      intro line _
      exact left_of_kept marker line
    · intro index line kept atLine atKept
      rw [List.getElem?_map, atLine, Option.map_some, Option.some.injEq] at atKept
      have left := left_of_kept marker line
      rw [atKept] at left
      exact ⟨left.of_unclosed, left.carriage_return⟩

/-- Two openings and two closings in any order on one line, and a line where the closing comes
first. -/
theorem strip_cuts_line_by_line_tangled :
    let marker : Marker := ⟨['g', 'o', ' ', 'u']⟩
    let code := ascii "a; _ =; _ = /* TODO: go u */b /* TODO: go u */\r\n /* TODO: go u */; _ =".toList
    let left := ascii "a\r\n /* TODO: go u */; _ =".toList
    '\n' ∉ marker.tool ∧ marker.strip code = some ⟨.appended, 1, left⟩ ∧
      (ofCode left).length = (ofCode code).length ∧
      1 = (ofCode code).countP (marker.Encloses ·) := by
  intro marker code left
  have fits : '\n' ∉ marker.tool := by decide
  have stripped : marker.strip code = some ⟨.appended, 1, left⟩ := by decide
  have cuts := (strip_cuts_line_by_line marker fits code).2 1 left stripped
  exact ⟨fits, stripped, cuts.2.2.2.1, cuts.2.1⟩

end BlankUse.Marker
