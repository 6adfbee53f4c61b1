import BlankUse.Basic
import Mathlib.Data.List.Basic
import Mathlib.Data.List.Infix
import Mathlib.Data.List.TakeWhile

/-!
Where a word occurs in a text: its first occurrence, its last one, and occurrences that would lie
across the border between two texts. A run of a class in front of something else is read in one way.
-/

namespace BlankUse

variable {word text front back before behind after : Bytes}

theorem drop_prefix_eq_none : text.dropPrefix? word = none ↔ ¬ word <+: text := by
  rw [Option.eq_none_iff_forall_ne_some]
  simp only [ne_eq, List.dropPrefix?_eq_some_iff, beq_iff_eq, exists_eq_right]
  constructor
  · rintro missing ⟨rest, shape⟩
    exact missing rest shape.symm
  · intro missing rest shape
    exact missing ⟨rest, shape.symm⟩

theorem drop_infix_loop_eq_none (done : Bytes) :
    List.dropInfix?.go word text done = none ↔ ¬ word <:+: text := by
  induction text generalizing done with
  | nil => simp [List.dropInfix?.go]
  | cons byte rest ih =>
      rw [List.dropInfix?.go, List.infix_cons_iff, not_or]
      cases found : (byte :: rest).dropPrefix? word with
      | none =>
          have here := drop_prefix_eq_none.mp found
          simpa [here] using ih (byte :: done)
      | some behind =>
          have here : word <+: byte :: rest := by
            by_contra missing
            rw [drop_prefix_eq_none.mpr missing] at found
            cases found
          simp [here]

theorem drop_infix_eq_none : text.dropInfix? word = none ↔ ¬ word <:+: text :=
  drop_infix_loop_eq_none []

theorem drop_infix_eq_some :
    text.dropInfix? word = some (before, behind) ↔
      text = before ++ word ++ behind ∧
        ∀ front back, text = front ++ word ++ back → before.length ≤ front.length := by
  rw [List.dropInfix?_eq_some_iff]
  constructor
  · rintro ⟨⟨found, shape, same⟩, least⟩
    rw [eq_of_beq same] at shape
    exact ⟨shape, fun front back other => least front word back other (by simp)⟩
  · rintro ⟨shape, least⟩
    refine ⟨⟨word, shape, by simp⟩, ?_⟩
    intro front found back other same
    rw [eq_of_beq same] at other
    exact least front back other

/-- What stands behind the last occurrence of a word. -/
def afterLast (word text : Bytes) : Option Bytes :=
  (text.reverse.dropInfix? word.reverse).map fun parts => parts.1.reverse

theorem after_last_eq_none : afterLast word text = none ↔ ¬ word <:+: text := by
  rw [afterLast, Option.map_eq_none_iff, drop_infix_eq_none, List.reverse_infix]

theorem after_last_eq_some :
    afterLast word text = some after ↔
      (∃ before, text = before ++ word ++ after) ∧
        ∀ front back, text = front ++ word ++ back → after.length ≤ back.length := by
  have turned (front back : Bytes) : text = front ++ word ++ back ↔
      text.reverse = back.reverse ++ word.reverse ++ front.reverse := by
    rw [← List.reverse_inj]
    simp
  simp only [afterLast, Option.map_eq_some_iff, Prod.exists, drop_infix_eq_some, turned]
  constructor
  · rintro ⟨behind, before, ⟨shape, least⟩, rfl⟩
    refine ⟨⟨before.reverse, by simpa using shape⟩, ?_⟩
    intro front back other
    simpa using least _ _ other
  · rintro ⟨⟨before, shape⟩, least⟩
    refine ⟨after.reverse, before.reverse, ⟨shape, ?_⟩, by simp⟩
    intro front back other
    simpa using least back.reverse front.reverse (by simpa using other)

theorem after_last_absent (nonempty : word ≠ []) (found : afterLast word text = some after) :
    ¬ word <:+: after := by
  rintro ⟨gap, rest, shape⟩
  obtain ⟨⟨before, whole⟩, least⟩ := after_last_eq_some.mp found
  have shorter := least (before ++ word ++ gap) rest (by simp [whole, ← shape])
  have sizes := congrArg List.length shape
  have positive := List.length_pos_iff.mpr nonempty
  simp only [List.length_append] at sizes
  omega

/-- A word that starts in a text ends in it as well, if what follows the text starts with an item
that the word holds at its front at most. -/
theorem prefix_of_prefix_append {Item : Type} {word front back : List Item} (nonempty : front ≠ [])
    (barrier : ∀ item ∈ back.head?, item ∉ word.tail) (found : word <+: front ++ back) :
    word <+: front := by
  rcases List.prefix_or_prefix_of_prefix found (List.prefix_append front back) with within | across
  · exact within
  · obtain ⟨beyond, rfl⟩ := across
    rw [List.prefix_append_right_inj] at found
    cases beyond with
    | nil => simp
    | cons item beyond =>
        obtain ⟨first, front, rfl⟩ := List.exists_cons_of_ne_nil nonempty
        obtain ⟨rest, rfl⟩ := found
        exact absurd (by simp) (barrier item (by simp))

theorem drop_infix_append (found : text.dropInfix? word = some (before, behind)) (back : Bytes) :
    (text ++ back).dropInfix? word = some (before, behind ++ back) := by
  obtain ⟨rfl, least⟩ := drop_infix_eq_some.mp found
  refine drop_infix_eq_some.mpr ⟨by simp, ?_⟩
  intro front rest shape
  by_contra shorter
  have fits : (front ++ word).length ≤ (before ++ word ++ behind).length := by
    simp only [List.length_append]
    omega
  have inner : front ++ word <+: before ++ word ++ behind ++ back := shape ▸ List.prefix_append _ _
  obtain ⟨tail, within⟩ :=
    List.prefix_of_prefix_length_le inner (List.prefix_append _ _) fits
  exact shorter (least front tail within.symm)

/-- A word behind a text without it is its first occurrence, if the word starts with a byte that it
does not hold again. -/
theorem drop_infix_border (absent : ¬ word <:+: front)
    (barrier : ∀ byte ∈ word.head?, byte ∉ word.tail) (back : Bytes) :
    (front ++ word ++ back).dropInfix? word = some (front, back) := by
  refine drop_infix_eq_some.mpr ⟨rfl, ?_⟩
  intro ahead rest shape
  by_contra shorter
  have inner : ahead <+: front ++ word ++ back := ⟨word ++ rest, by simp [shape]⟩
  have outer : front <+: front ++ word ++ back := ⟨word ++ back, by simp⟩
  obtain ⟨gap, rfl⟩ := List.prefix_of_prefix_length_le inner outer (by omega)
  have nonempty : gap ≠ [] := by
    rintro rfl
    simp at shorter
  have starts : word <+: gap ++ (word ++ back) := ⟨rest, by simpa using shape.symm⟩
  obtain ⟨tail, rfl⟩ := prefix_of_prefix_append nonempty (by
    intro byte first
    cases word with
    | nil => simp
    | cons head word => exact barrier byte (by simpa using first)) starts
  exact absent ⟨ahead, tail, by simp⟩

theorem append_eq_append_cons {left right : Bytes} {byte : UInt8}
    (same : front ++ back = left ++ byte :: right) :
    (∃ inner, front = left ++ byte :: inner ∧ right = inner ++ back) ∨
      ∃ inner, left = front ++ inner ∧ back = inner ++ byte :: right := by
  rcases List.append_eq_append_iff.mp same with ⟨inner, left, back⟩ | ⟨inner, front, right⟩
  · exact Or.inr ⟨inner, left, back⟩
  · cases inner with
    | nil => exact Or.inr ⟨[], by simpa using front.symm, by simpa using right.symm⟩
    | cons first inner =>
        obtain ⟨rfl, rest⟩ := List.cons_eq_cons.mp right
        exact Or.inl ⟨inner, front, rest⟩

section

variable {Item : Type} (member : Item → Bool)

theorem take_drop_while (run rest : List Item) (inside : ∀ item ∈ run, member item = true)
    (stops : ∀ item ∈ rest.head?, member item = false) :
    (run ++ rest).takeWhile member = run ∧ (run ++ rest).dropWhile member = rest := by
  rw [List.takeWhile_append_of_pos inside, List.dropWhile_append_of_pos inside]
  cases rest with
  | nil => simp
  | cons item rest =>
      have out := stops item (by simp)
      simp [out]

theorem same_runs {run rest other more : List Item} (same : run ++ rest = other ++ more)
    (inside : ∀ item ∈ run, member item = true) (others : ∀ item ∈ other, member item = true)
    (stops : ∀ item ∈ rest.head?, member item = false)
    (otherStops : ∀ item ∈ more.head?, member item = false) : run = other ∧ rest = more := by
  have first := take_drop_while member run rest inside stops
  have second := take_drop_while member other more others otherStops
  rw [same] at first
  exact ⟨first.1.symm.trans second.1, first.2.symm.trans second.2⟩

end

end BlankUse
