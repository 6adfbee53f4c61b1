import BlankUse.Environment
import BlankUse.Proofs.Occurrence

/-!
References in a text, and what stands in their places. A text is a template in one way only: texts
without a reference, and between each two of them a reference. Substitution takes the references of
this template, all at once. The texts between them stay as they are, whatever stray signs they hold,
and a value that is put in is never looked at again.
-/

namespace BlankUse.Environment

/-! Names, said by the codes of their characters. -/

def IsLetter (c : Char) : Prop :=
  (0x41 ≤ c.toNat ∧ c.toNat ≤ 0x5A) ∨ (0x61 ≤ c.toNat ∧ c.toNat ≤ 0x7A)

def IsDigit (c : Char) : Prop := 0x30 ≤ c.toNat ∧ c.toNat ≤ 0x39

/-- A letter of ASCII or the low line, and then letters and digits of ASCII and low lines. -/
inductive ValidName : Text → Prop
  | intro {first : Char} {rest : Text} (start : IsLetter first ∨ first = '_')
      (more : ∀ c ∈ rest, IsLetter c ∨ IsDigit c ∨ c = '_') : ValidName (first :: rest)

theorem is_name_start_iff (c : Char) : isNameStart c = true ↔ IsLetter c ∨ c = '_' := by
  delta isNameStart Char.isAlpha Char.isUpper Char.isLower
  simp only [Bool.or_eq_true, Bool.and_eq_true, decide_eq_true_eq, ge_iff_le,
    UInt32.le_iff_toNat_le, beq_iff_eq]
  exact Iff.rfl

theorem is_name_char_iff (c : Char) :
    isNameChar c = true ↔ IsLetter c ∨ IsDigit c ∨ c = '_' := by
  delta isNameChar Char.isAlphanum Char.isAlpha Char.isUpper Char.isLower Char.isDigit
  simp only [Bool.or_eq_true, Bool.and_eq_true, decide_eq_true_eq, ge_iff_le,
    UInt32.le_iff_toNat_le, beq_iff_eq]
  exact or_assoc

theorem is_name_iff (text : Text) : isName text = true ↔ ValidName text := by
  cases text with
  | nil => exact ⟨nofun, nofun⟩
  | cons first rest =>
      simp only [isName, Bool.and_eq_true, is_name_start_iff, List.all_eq_true, is_name_char_iff]
      exact ⟨fun ⟨start, more⟩ => .intro start more, fun (.intro start more) => ⟨start, more⟩⟩

instance (text : Text) : Decidable (ValidName text) := decidable_of_iff _ (is_name_iff text)

theorem ValidName.name_chars {name : Text} (valid : ValidName name) :
    ∀ c ∈ name, isNameChar c = true := by
  obtain ⟨start, more⟩ := valid
  intro c member
  rw [is_name_char_iff]
  rcases List.mem_cons.mp member with rfl | later
  · rcases start with letter | low
    · exact Or.inl letter
    · exact Or.inr (Or.inr low)
  · exact more c later

/-! References. -/

def referenceTo (name : Text) : Text := '$' :: '{' :: name ++ ['}']

/-- A reference stands somewhere in the text, from its sign to its closing brace. -/
def HoldsReference (text : Text) : Prop :=
  ∃ name, ValidName name ∧ referenceTo name <:+: text

theorem ValidName.dollar_free {name : Text} (valid : ValidName name) :
    '$' ∉ (referenceTo name).tail := by
  have spelled : '$' ∉ name := fun inside => absurd (valid.name_chars _ inside) (by decide)
  simpa [referenceTo] using spelled

theorem ValidName.reference_to_append {name : Text} (valid : ValidName name) (rest : Text) :
    reference? (referenceTo name ++ rest) = some name := by
  have closes : ∀ c ∈ ('}' :: rest).head?, isNameChar c = false := by
    rintro c ⟨⟩
    decide
  obtain ⟨taken, left⟩ := take_drop_while isNameChar name ('}' :: rest) valid.name_chars closes
  have shape : referenceTo name ++ rest = '$' :: '{' :: (name ++ '}' :: rest) := by
    simp [referenceTo]
  simp [shape, reference?, taken, left, (is_name_iff name).mpr valid]

theorem reference_eq_some_iff (text name : Text) :
    reference? text = some name ↔ ValidName name ∧ referenceTo name <+: text := by
  constructor
  · intro found
    unfold reference? at found
    split at found
    · next dollar brace rest =>
      simp only [Option.ite_none_right_eq_some, Bool.and_eq_true, beq_iff_eq,
        Option.some.injEq] at found
      obtain ⟨⟨⟨⟨rfl, rfl⟩, named⟩, closed⟩, rfl⟩ := found
      obtain ⟨behind, shape⟩ := List.head?_eq_some_iff.mp closed
      refine ⟨(is_name_iff _).mp named, behind, ?_⟩
      have whole := List.takeWhile_append_dropWhile (p := isNameChar) (l := rest)
      rw [shape] at whole
      simp [referenceTo, whole]
    · cases found
  · rintro ⟨valid, rest, rfl⟩
    exact valid.reference_to_append rest

instance (text : Text) : Decidable (HoldsReference text) :=
  decidable_of_iff (text.tails.any fun tail => (reference? tail).isSome) (by
    simp only [List.any_eq_true, List.mem_tails, Option.isSome_iff_exists, reference_eq_some_iff,
      HoldsReference, List.infix_iff_prefix_suffix]
    grind)

/-! How a text is cut. -/

theorem parts_loop_done (skip : Nat) (done : List Part) (text : Text) :
    partsLoop skip done text = done.reverse ++ partsLoop skip [] text := by
  induction text generalizing skip done with
  | nil => simp [partsLoop]
  | cons c rest ih =>
      cases skip with
      | succ skip => exact ih skip done
      | zero =>
          simp only [partsLoop]
          split
          · next name _ =>
            rw [ih _ (.reference name :: done), ih _ [.reference name]]
            simp
          · rw [ih _ (.literal c :: done), ih _ [.literal c]]
            simp

theorem parts_loop_skip (passed text : Text) :
    partsLoop passed.length [] (passed ++ text) = parts text := by
  induction passed with
  | nil => rfl
  | cons c passed ih => exact ih

theorem parts_literal {c : Char} {rest : Text} (literal : reference? (c :: rest) = none) :
    parts (c :: rest) = .literal c :: parts rest := by
  rw [parts, partsLoop, literal]
  exact parts_loop_done 0 [.literal c] rest

theorem parts_reference {name : Text} (valid : ValidName name) (rest : Text) :
    parts (referenceTo name ++ rest) = .reference name :: parts rest := by
  have found := valid.reference_to_append rest
  have shape : referenceTo name ++ rest = '$' :: (('{' :: name ++ ['}']) ++ rest) := by
    simp [referenceTo]
  have length : name.length + 2 = ('{' :: name ++ ['}']).length := by simp
  rw [shape] at found ⊢
  rw [parts, partsLoop, found]
  simp only
  rw [parts_loop_done, length, parts_loop_skip]
  rfl

/-! Templates. -/

/-- Text without a reference; signs and braces may stand in it, also references that are not
finished. -/
structure Plain where
  text : Text
  unreferring : ¬ HoldsReference text

structure Name where
  text : Text
  valid : ValidName text

/-- Plain text, and each reference with the plain text behind it. -/
@[ext]
structure Template where
  front : Plain
  slots : List (Name × Plain)

namespace Template

def text (template : Template) : Text :=
  template.front.text ++ template.slots.flatMap fun slot =>
    referenceTo slot.1.text ++ slot.2.text

def names (template : Template) : List Text := template.slots.map fun slot => slot.1.text

def filled (environment : Environment) (template : Template) : Text :=
  template.front.text ++ template.slots.flatMap fun slot =>
    environment.get slot.1.text ++ slot.2.text

def notes (environment : Environment) (template : Template) : List Note :=
  (template.names.filter fun name => environment.get name = []).map fun name =>
    .debug ("Environment variable " ++ String.ofList name ++ " not set")

def slotParts (slots : List (Name × Plain)) : List Part :=
  slots.flatMap fun slot => .reference slot.1.text :: slot.2.text.map .literal

def parts (template : Template) : List Part :=
  template.front.text.map .literal ++ slotParts template.slots

end Template

/-- Plain text in front of a reference, or of nothing, is cut into its characters. A reference that
started in it would have to go on past the sign of the next one. -/
theorem parts_plain {text : Text} (unreferring : ¬ HoldsReference text) {rest : Text}
    (ends : ∀ c ∈ rest.head?, c = '$') :
    parts (text ++ rest) = text.map .literal ++ parts rest := by
  induction text with
  | nil => rfl
  | cons c text ih =>
      have later : ¬ HoldsReference text := fun ⟨name, valid, inside⟩ =>
        unreferring ⟨name, valid, inside.trans (List.suffix_cons c text).isInfix⟩
      have literal : reference? (c :: (text ++ rest)) = none := by
        rw [Option.eq_none_iff_forall_ne_some]
        intro name found
        obtain ⟨valid, ahead⟩ := (reference_eq_some_iff _ name).mp found
        have within : referenceTo name <+: c :: text := by
          apply prefix_of_prefix_append (List.cons_ne_nil c text) _ ahead
          intro sign first
          rw [ends sign first]
          exact valid.dollar_free
        exact unreferring ⟨name, valid, within.isInfix⟩
      rw [List.cons_append, parts_literal literal, ih later]
      rfl

theorem parts_slots (plain : Plain) (slots : List (Name × Plain)) :
    parts (Template.text ⟨plain, slots⟩) = Template.parts ⟨plain, slots⟩ := by
  induction slots generalizing plain with
  | nil =>
      have whole : parts (plain.text ++ []) = plain.text.map .literal ++ parts [] :=
        parts_plain plain.unreferring (by simp)
      simpa [Template.text, Template.parts, Template.slotParts, parts, partsLoop] using whole
  | cons slot slots ih =>
      obtain ⟨name, behind⟩ := slot
      have shape : Template.text ⟨plain, (name, behind) :: slots⟩ =
          plain.text ++ (referenceTo name.text ++ Template.text ⟨behind, slots⟩) := by
        simp [Template.text]
      have ends : ∀ c ∈ (referenceTo name.text ++ Template.text ⟨behind, slots⟩).head?, c = '$' := by
        rintro c ⟨⟩
        rfl
      rw [shape, parts_plain plain.unreferring ends, parts_reference name.valid, ih behind]
      simp [Template.parts, Template.slotParts]

namespace Template

theorem parts_text (template : Template) : Environment.parts template.text = template.parts :=
  parts_slots template.front template.slots

theorem parts_value (environment : Environment) (template : Template) :
    template.parts.flatMap (Part.value environment) = template.filled environment := by
  simp [parts, slotParts, filled, Part.value, List.flatMap_append, List.flatMap_map,
    List.flatMap_assoc]

theorem parts_notes (environment : Environment) (template : Template) :
    template.parts.filterMap (Part.note? environment) = template.notes environment := by
  have quiet (text : Text) : (text.map Part.literal).filterMap (Part.note? environment) = [] := by
    simp [List.filterMap_eq_nil_iff, Part.note?]
  obtain ⟨front, slots⟩ := template
  simp only [parts, slotParts, notes, names, List.filterMap_append, quiet, List.nil_append]
  induction slots with
  | nil => rfl
  | cons slot slots ih =>
      rw [List.flatMap_cons, List.cons_append, List.filterMap_cons, List.filterMap_append, quiet,
        List.nil_append, ih]
      by_cases unset : environment.get slot.1.text = []
      · simp [Part.note?, unset]
      · simp [Part.note?, unset]

theorem substitute_text (environment : Environment) (template : Template) :
    environment.substitute template.text =
      (template.filled environment, template.notes environment) := by
  rw [substitute, parts_text, parts_value, parts_notes]

theorem substitute_congr {first second : Environment} {template : Template}
    (agree : ∀ name ∈ template.names, first.get name = second.get name) :
    first.substitute template.text = second.substitute template.text := by
  have values : template.filled first = template.filled second := by
    simp only [filled, List.append_cancel_left_eq]
    apply List.flatMap_congr
    intro slot member
    rw [agree slot.1.text (List.mem_map_of_mem member)]
  have told : template.notes first = template.notes second := by
    simp only [notes]
    congr 1
    apply List.filter_congr
    intro name member
    rw [agree name member]
  rw [substitute_text, substitute_text, values, told]

/-- Plain text ends where a reference starts, so the parts of a template tell its plain texts apart
from its references. -/
theorem fronts_of_parts {first second : Plain} {slots others : List (Name × Plain)}
    (same : parts ⟨first, slots⟩ = parts ⟨second, others⟩) :
    first = second ∧ slotParts slots = slotParts others := by
  let isLiteral : Part → Bool := fun part => part matches .literal _
  have literals (text : Text) : ∀ part ∈ text.map Part.literal, isLiteral part = true := by
    simp [isLiteral]
  have stops (slots : List (Name × Plain)) :
      ∀ part ∈ (slotParts slots).head?, isLiteral part = false := by
    cases slots with
    | nil => simp [slotParts]
    | cons slot slots =>
        rintro part ⟨⟩
        rfl
  obtain ⟨spelled, rest⟩ := same_runs isLiteral same (literals _) (literals _) (stops _) (stops _)
  obtain ⟨text, unreferring⟩ := first
  obtain ⟨other, otherUnreferring⟩ := second
  obtain rfl : text = other := List.map_injective_iff.mpr (fun _ _ => Part.literal.inj) spelled
  exact ⟨rfl, rest⟩

theorem slots_of_parts {slots others : List (Name × Plain)}
    (same : slotParts slots = slotParts others) : slots = others := by
  induction slots generalizing others with
  | nil =>
      cases others with
      | nil => rfl
      | cons other others => cases same
  | cons slot slots ih =>
      cases others with
      | nil => cases same
      | cons other others =>
          obtain ⟨⟨name, valid⟩, behind⟩ := slot
          obtain ⟨⟨otherName, otherValid⟩, otherBehind⟩ := other
          obtain ⟨named, later⟩ := List.cons_eq_cons.mp same
          obtain rfl := Part.reference.inj named
          obtain ⟨rfl, rest⟩ := fronts_of_parts later
          rw [ih rest]

theorem eq_of_text {template other : Template} (same : template.text = other.text) :
    template = other := by
  have parted : template.parts = other.parts := by
    rw [← parts_text, ← parts_text, same]
  obtain ⟨fronts, rest⟩ := fronts_of_parts parted
  exact Template.ext fronts (slots_of_parts rest)

end Template

theorem exists_template (text : Text) : ∃ template : Template, template.text = text := by
  induction size : text.length using Nat.strong_induction_on generalizing text with
  | _ size ih =>
      cases found : reference? text with
      | some name =>
          obtain ⟨valid, rest, rfl⟩ := (reference_eq_some_iff text name).mp found
          obtain ⟨template, rfl⟩ := ih rest.length (by simp [← size, referenceTo]; omega) rest rfl
          refine ⟨⟨⟨[], by decide⟩, (⟨name, valid⟩, template.front) :: template.slots⟩, ?_⟩
          simp [Template.text]
      | none =>
          cases text with
          | nil => exact ⟨⟨⟨[], by decide⟩, []⟩, rfl⟩
          | cons c rest =>
              obtain ⟨template, shape⟩ := ih rest.length (by simp [← size]) rest rfl
              have unreferring : ¬ HoldsReference (c :: template.front.text) := by
                rintro ⟨name, valid, inside⟩
                rcases List.infix_cons_iff.mp inside with ahead | later
                · have start : referenceTo name <+: c :: rest :=
                    ahead.trans ⟨_, by rw [← shape, Template.text, List.cons_append]⟩
                  rw [(reference_eq_some_iff _ name).mpr ⟨valid, start⟩] at found
                  cases found
                · exact template.front.unreferring ⟨name, valid, later⟩
              refine ⟨⟨⟨c :: template.front.text, unreferring⟩, template.slots⟩, ?_⟩
              rw [← shape]
              rfl

/-- Substitution puts the values of all references in their places at once. For a text that is given as
a template, plain texts stay as they are, each reference gives way to the value of its variable or to
nothing if that is not set, and only references without a value are noted. Every text is a template in
exactly one way. So what comes out depends on the values of the names in the template and on nothing
else in the environment. -/
theorem substitute_is_simultaneous :
    (∀ (environment : Environment) (template : Template),
      environment.substitute template.text =
        (template.filled environment, template.notes environment)) ∧
    (∀ text : Text, ∃! template : Template, template.text = text) ∧
    ∀ (first second : Environment) (template : Template),
      (∀ name ∈ template.names, first.get name = second.get name) →
        first.substitute template.text = second.substitute template.text := by
  refine ⟨Template.substitute_text, ?_, fun _ _ _ => Template.substitute_congr⟩
  intro text
  obtain ⟨template, shape⟩ := exists_template text
  exact ⟨template, shape, fun other same => Template.eq_of_text (same.trans shape.symm)⟩

/-- Signs and braces on all sides of references, names that are none, values that spell references, on
their own or together with what stands around them, and a variable that is not set. -/
theorem substitute_is_simultaneous_nested :
    let environment : Environment := [(['A'], referenceTo ['B']), (['B'], ['{', 'A', '}'])]
    let other : Environment := (['C'], ['c']) :: environment
    let template : Template :=
      ⟨⟨['$'], by decide⟩, [(⟨['A'], by decide⟩, ⟨['$', '{', 'A', '$'], by decide⟩),
        (⟨['B'], by decide⟩, ⟨['}', '$', '{', '1', 'A', '}'], by decide⟩),
        (⟨['_'], by decide⟩, ⟨['}'], by decide⟩)]⟩
    template.text =
        "$$\x7bA\x7d$\x7bA$$\x7bB\x7d\x7d$\x7b1A\x7d$\x7b_\x7d\x7d".toList ∧
      (environment.substitute template.text).1 =
        "$$\x7bB\x7d$\x7bA$\x7bA\x7d\x7d$\x7b1A\x7d\x7d".toList ∧
      (∀ name ∈ template.names, environment.get name = other.get name) ∧
      environment.substitute template.text = other.substitute template.text := by
  intro environment other template
  obtain ⟨filled, -, agreeing⟩ := substitute_is_simultaneous
  have agree : ∀ name ∈ template.names, environment.get name = other.get name := by decide
  refine ⟨by decide, ?_, agree, agreeing environment other template agree⟩
  rw [filled environment template]
  decide

end BlankUse.Environment
