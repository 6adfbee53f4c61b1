import BlankUse.LineBuffer
import Mathlib.Data.List.Basic

/-!
Code and its lines. Cutting at line feeds and joining again undo each other: every code is the join
of its lines, and a list of lines is read back from its join if it has a line and no line holds a
line feed.
-/

namespace BlankUse

theorem split_loop_eq {Item : Type} [BEq Item] (separator : Item) (piece : List Item)
    (done : List (List Item)) (items : List Item) :
    splitLoop separator piece done items =
      done.reverse ++ items.splitOnPPrepend (· == separator) piece := by
  induction items generalizing piece done with
  | nil => simp [splitLoop]
  | cons item rest ih =>
      rw [splitLoop, List.splitOnPPrepend_cons_eq_if]
      split
      · rw [ih]
        simp
      · exact ih _ _

theorem split_on_eq {Item : Type} [BEq Item] (separator : Item) (items : List Item) :
    splitOn separator items = items.splitOn separator := by
  rw [splitOn, split_loop_eq]
  rfl

theorem split_on_piece_free {Item : Type} [BEq Item] [LawfulBEq Item] (separator : Item)
    (items : List Item) : ∀ piece ∈ splitOn separator items, separator ∉ piece := by
  induction items with
  | nil => simp [split_on_eq]
  | cons item rest ih =>
      rw [split_on_eq] at ih ⊢
      rw [List.splitOn_cons_eq_if_modifyHead]
      obtain ⟨head, tail, pieces⟩ := List.exists_cons_of_ne_nil (List.splitOn_ne_nil separator rest)
      rw [pieces] at ih ⊢
      have headFree := ih head (by simp)
      have tailFree : ∀ piece ∈ tail, separator ∉ piece := fun piece member =>
        ih piece (by simp [member])
      split
      · simpa using ⟨headFree, tailFree⟩
      · next differs =>
        have other : separator ≠ item := fun same => differs (by simp [same])
        simpa [other] using ⟨headFree, tailFree⟩

theorem intercalate_cons {Item : Type} (separator : Item) (piece : List Item)
    (rest : List (List Item)) :
    List.intercalate [separator] (piece :: rest) = piece ++ rest.flatMap (separator :: ·) := by
  induction rest generalizing piece with
  | nil => simp
  | cons second rest ih =>
      rw [List.intercalate_cons_cons, ih]
      simp

theorem mem_intercalate_iff {Item : Type} {separator item : Item} (other : item ≠ separator)
    {pieces : List (List Item)} :
    item ∈ List.intercalate [separator] pieces ↔ ∃ piece ∈ pieces, item ∈ piece := by
  cases pieces with
  | nil => simp
  | cons piece rest =>
      rw [intercalate_cons]
      simp [other]

namespace LineBuffer

open Byte

theorem of_code_ne_nil (code : Bytes) : ofCode code ≠ [] := by
  rw [ofCode, split_on_eq]
  exact List.splitOn_ne_nil _ _

theorem of_code_newline_free (code : Bytes) : ∀ line ∈ ofCode code, newline ∉ line :=
  split_on_piece_free newline code

theorem to_code_of_code (code : Bytes) : toCode (ofCode code) = code := by
  rw [toCode, ofCode, split_on_eq]
  exact List.intercalate_splitOn newline

theorem of_code_to_code (lines : List Bytes) (nonempty : lines ≠ [])
    (free : ∀ line ∈ lines, newline ∉ line) : ofCode (toCode lines) = lines := by
  rw [toCode, ofCode, split_on_eq]
  exact List.splitOn_intercalate newline free nonempty

theorem to_code_cons (line : Bytes) (rest : List Bytes) :
    toCode (line :: rest) = line ++ rest.flatMap (newline :: ·) :=
  intercalate_cons newline line rest

theorem count_newline_to_code (line : Bytes) (rest : List Bytes)
    (free : ∀ other ∈ line :: rest, newline ∉ other) :
    (toCode (line :: rest)).count newline = rest.length := by
  rw [to_code_cons, List.count_append, List.count_eq_zero.mpr (free line (by simp)), Nat.zero_add]
  induction rest with
  | nil => rfl
  | cons next rest ih =>
      have here := List.count_eq_zero.mpr (free next (by simp))
      have later := ih fun other member => free other (by
        rcases List.mem_cons.mp member with rfl | inside
        · simp
        · simp [inside])
      rw [List.flatMap_cons, List.cons_append, List.count_cons_self, List.count_append, here, later]
      simp

theorem infix_to_code {line : Bytes} {lines : List Bytes} (member : line ∈ lines) :
    line <:+: toCode lines := by
  obtain ⟨ahead, behind, rfl⟩ := List.append_of_mem member
  cases ahead with
  | nil =>
      rw [List.nil_append, to_code_cons]
      exact (List.prefix_append line _).isInfix
  | cons first ahead =>
      refine ⟨first ++ ahead.flatMap (newline :: ·) ++ [newline],
        behind.flatMap (newline :: ·), ?_⟩
      rw [List.cons_append, to_code_cons, List.flatMap_append, List.flatMap_cons]
      simp

end LineBuffer

end BlankUse
