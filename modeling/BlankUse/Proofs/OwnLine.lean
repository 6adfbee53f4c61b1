import BlankUse.Proofs.Deletion
import BlankUse.Proofs.Occurrence
import BlankUse.Proofs.WordBytes
import Mathlib.Data.List.TakeWhile

/-!
Usages on lines of their own. The recogniser takes runs as long as they get and never looks back,
and still it accepts exactly the usages: the byte behind each run is of another class, so there is
one way to cut a usage into its parts. A line feed inside a usage stands in front of its `_`, its
`=` or its comment and nowhere else, which is what keeps usages on neighbouring lines apart.
-/

namespace BlankUse

open Byte

namespace Marker

structure Runs where
  lead : Bytes
  gap : Bytes
  name : Bytes
  pad : Bytes
  leadBlank : ∀ byte ∈ lead, isBlank byte = true
  gapBlank : ∀ byte ∈ gap, isBlank byte = true
  nameBytes : ∀ byte ∈ name, isNameByte byte = true
  padBlank : ∀ byte ∈ pad, isBlank byte = true

/-- Blanks, `_`, blanks, `= `, a name, blanks and the closing. -/
def Runs.usage (runs : Runs) (marker : Marker) : Bytes :=
  runs.lead ++ underscore :: (runs.gap ++ equals :: space ::
    (runs.name ++ (runs.pad ++ marker.closing)))

variable (marker : Marker)

theorem comment_cons : ∃ rest, marker.comment = slash :: rest :=
  ⟨ascii ['*', ' ', 'T', 'O', 'D', 'O', ':', ' '] ++ Utf8.encode marker.tool ++
    ascii [' ', '*', '/'], by simp [comment, ascii, slash]⟩

theorem closing_width_eq_some (code : Bytes) (width : Nat) :
    marker.closingWidth code = some width ↔
      ∃ pad rest, code = pad ++ marker.closing ++ rest ∧ (∀ byte ∈ pad, isBlank byte = true) ∧
        width = pad.length + marker.closing.length := by
  constructor
  · intro found
    simp only [closingWidth, List.isPrefixOf_iff_prefix] at found
    split at found
    · next shape =>
      obtain ⟨pad, blanks⟩ := List.getLast?_eq_some_iff.mp shape.1
      obtain ⟨rest, commented⟩ := shape.2
      refine ⟨pad, rest, ?_, ?_, ?_⟩
      · rw [← List.takeWhile_append_dropWhile (p := isBlank) (l := code), blanks, ← commented]
        simp [closing]
      · intro byte member
        exact List.mem_takeWhile_imp (by rw [blanks]; simp [member])
      · rw [blanks] at found
        simp [closing] at found ⊢
        omega
    · cases found
  · rintro ⟨pad, rest, rfl, blanks, rfl⟩
    obtain ⟨inner, slashed⟩ := comment_cons marker
    have allBlank : ∀ byte ∈ pad ++ [space], isBlank byte = true := by
      intro byte member
      rcases List.mem_append.mp member with early | late
      · exact blanks byte early
      · rw [List.mem_singleton.mp late]
        decide
    have stops : ∀ byte ∈ (marker.comment ++ rest).head?, isBlank byte = false := by
      intro byte first
      simp only [slashed, List.cons_append, List.head?_cons, Option.mem_some_iff] at first
      rw [← first]
      decide
    have runs := take_drop_while isBlank _ _ allBlank stops
    have shape : pad ++ marker.closing ++ rest = pad ++ [space] ++ (marker.comment ++ rest) := by
      simp [closing]
    rw [closingWidth, shape, runs.1, runs.2]
    simp [closing, List.isPrefixOf_iff_prefix]
    omega

theorem not_name_of_blank {byte : UInt8} (blank : isBlank byte = true) :
    isNameByte byte = false := by
  simp [isNameByte, blank]

theorem is_name_byte_of_word {byte : UInt8} (word : IsWordByte byte) : isNameByte byte = true := by
  have semicolonForeign : byte ≠ semicolon := fun same => absurd (same ▸ word) (by decide)
  have equalsForeign : byte ≠ equals := fun same => absurd (same ▸ word) (by decide)
  simp [isNameByte, word.not_blank, semicolonForeign, equalsForeign]

theorem name_width_eq_some (code : Bytes) (width : Nat) :
    marker.nameWidth code = some width ↔
      ∃ name pad rest, code = name ++ (pad ++ marker.closing ++ rest) ∧
        (∀ byte ∈ name, isNameByte byte = true) ∧ (∀ byte ∈ pad, isBlank byte = true) ∧
        width = name.length + (pad.length + marker.closing.length) := by
  simp only [nameWidth, Option.map_eq_some_iff, closing_width_eq_some]
  constructor
  · rintro ⟨inner, ⟨pad, rest, shape, blanks, rfl⟩, rfl⟩
    refine ⟨code.takeWhile isNameByte, pad, rest, ?_, ?_, blanks, rfl⟩
    · rw [← shape, List.takeWhile_append_dropWhile]
    · exact fun byte member => List.mem_takeWhile_imp member
  · rintro ⟨name, pad, rest, rfl, names, blanks, rfl⟩
    have stops : ∀ byte ∈ (pad ++ marker.closing ++ rest).head?, isNameByte byte = false := by
      intro byte first
      apply not_name_of_blank
      cases pad with
      | nil =>
          simp only [closing, List.nil_append, List.cons_append, List.head?_cons,
            Option.mem_some_iff] at first
          rw [← first]
          decide
      | cons head pad =>
          simp only [List.cons_append, List.head?_cons, Option.mem_some_iff] at first
          exact blanks byte (by simp [first])
    have runs := take_drop_while isNameByte _ _ names stops
    rw [runs.1, runs.2]
    exact ⟨_, ⟨pad, rest, rfl, blanks, rfl⟩, rfl⟩

theorem usage_of_own_line {code : Bytes} {width : Nat} (found : marker.ownLine code = some width) :
    ∃ (runs : Runs) (rest : Bytes), code = runs.usage marker ++ rest ∧
      width = (runs.usage marker).length := by
  simp only [ownLine] at found
  split at found
  · cases found
  · next byte afterBlanks afterLead =>
    split at found
    · next low =>
      split at found
      · next first second after afterGap =>
        split at found
        · next equal =>
          obtain ⟨inner, named, rfl⟩ := Option.map_eq_some_iff.mp found
          obtain ⟨name, pad, rest, rfl, names, blanks, rfl⟩ :=
            (name_width_eq_some marker _ _).mp named
          simp only [beq_iff_eq, Bool.and_eq_true] at low equal
          refine ⟨⟨code.takeWhile isBlank, afterBlanks.takeWhile isBlank, name, pad,
            fun _ => List.mem_takeWhile_imp, fun _ => List.mem_takeWhile_imp, names, blanks⟩,
            rest, ?_, ?_⟩
          · conv => lhs; rw [← List.takeWhile_append_dropWhile (p := isBlank) (l := code),
              afterLead, ← List.takeWhile_append_dropWhile (p := isBlank) (l := afterBlanks),
              afterGap]
            simp [Runs.usage, low, equal]
          · simp [Runs.usage]
            omega
        · cases found
      · cases found
    · cases found

theorem own_line_usage (runs : Runs) (rest : Bytes) :
    marker.ownLine (runs.usage marker ++ rest) = some (runs.usage marker).length := by
  have first := take_drop_while isBlank runs.lead (underscore :: (runs.gap ++ equals :: space ::
    (runs.name ++ (runs.pad ++ marker.closing ++ rest)))) runs.leadBlank (by simp; decide)
  have second := take_drop_while isBlank runs.gap (equals :: space ::
    (runs.name ++ (runs.pad ++ marker.closing ++ rest))) runs.gapBlank (by simp; decide)
  have third := (name_width_eq_some marker _ _).mpr
    ⟨runs.name, runs.pad, rest, rfl, runs.nameBytes, runs.padBlank, rfl⟩
  have shape : runs.usage marker ++ rest = runs.lead ++ underscore :: (runs.gap ++ equals ::
      space :: (runs.name ++ (runs.pad ++ marker.closing ++ rest))) := by
    simp [Runs.usage]
  rw [ownLine, shape, first.1, first.2]
  simp only [beq_self_eq_true, if_true, second.1, second.2, Bool.and_self, third, Option.map_some]
  simp [Runs.usage]
  omega

/-- The recogniser accepts exactly the usages, and takes each of them whole. -/
theorem own_line_eq_some (code : Bytes) (width : Nat) :
    marker.ownLine code = some width ↔
      ∃ (runs : Runs) (rest : Bytes), code = runs.usage marker ++ rest ∧
        width = (runs.usage marker).length := by
  constructor
  · exact usage_of_own_line marker
  · rintro ⟨runs, rest, rfl, rfl⟩
    exact own_line_usage marker runs rest

theorem own_line_proper : Pattern.Proper marker.ownLine := by
  intro code width found
  obtain ⟨runs, rest, rfl, rfl⟩ := usage_of_own_line marker found
  simp only [Runs.usage, List.length_append, List.length_cons]
  omega

theorem own_line_quiet_iff (code : Bytes) :
    Pattern.Quiet marker.ownLine code ↔ ∀ runs : Runs, ¬ runs.usage marker <:+: code := by
  constructor
  · rintro quiet runs ⟨front, back, shape⟩
    have missing := quiet (runs.usage marker ++ back) ⟨front, by rw [← shape, List.append_assoc]⟩
    rw [own_line_usage] at missing
    cases missing
  · intro unused rest suffix
    rw [Option.eq_none_iff_forall_ne_some]
    intro width found
    obtain ⟨runs, back, shape, -⟩ := usage_of_own_line marker found
    apply unused runs
    have starts : runs.usage marker <+: rest := ⟨back, shape.symm⟩
    exact starts.isInfix.trans suffix.isInfix

/-- Behind a line feed inside a usage, the first byte that is no blank is `=` or the slash of the
comment, unless only blanks stand before it. -/
theorem usage_after_newline (closingFree : newline ∉ marker.closing) (runs : Runs)
    {front back : Bytes} (same : runs.usage marker = front ++ newline :: back)
    (solid : ∃ byte ∈ front, isBlank byte = false) :
    (back.dropWhile isBlank).head? = some equals ∨ (back.dropWhile isBlank).head? = some slash := by
  rcases append_eq_append_cons same with ⟨inner, inLead, -⟩ | ⟨ahead, rfl, fromLow⟩
  · obtain ⟨byte, member, notBlank⟩ := solid
    have blank := runs.leadBlank byte (by simp [inLead, member])
    rw [notBlank] at blank
    cases blank
  change [underscore] ++ _ = _ at fromLow
  rcases append_eq_append_cons fromLow with ⟨inner, inLow, -⟩ | ⟨ahead, -, fromGap⟩
  · have member : newline ∈ [underscore] := by simp [inLow]
    exact absurd member (by decide)
  rcases append_eq_append_cons fromGap with ⟨inner, inGap, rfl⟩ | ⟨ahead, -, fromEquals⟩
  · left
    have blanks : ∀ byte ∈ inner, isBlank byte = true := fun byte member =>
      runs.gapBlank byte (by simp [inGap, member])
    rw [(take_drop_while isBlank inner _ blanks (by simp; decide)).2]
    rfl
  change [equals, space] ++ _ = _ at fromEquals
  rcases append_eq_append_cons fromEquals with ⟨inner, inEquals, -⟩ | ⟨ahead, -, fromName⟩
  · have member : newline ∈ [equals, space] := by simp [inEquals]
    exact absurd member (by decide)
  rcases append_eq_append_cons fromName with ⟨inner, inName, -⟩ | ⟨ahead, -, fromPad⟩
  · have named := runs.nameBytes newline (by simp [inName])
    exact absurd named (by decide)
  rcases append_eq_append_cons fromPad with ⟨inner, inPad, rfl⟩ | ⟨ahead, -, fromClosing⟩
  · right
    have blanks : ∀ byte ∈ inner ++ [space], isBlank byte = true := by
      intro byte member
      rcases List.mem_append.mp member with early | late
      · exact runs.padBlank byte (by simp [inPad, early])
      · rw [List.mem_singleton.mp late]
        decide
    obtain ⟨rest, slashed⟩ := comment_cons marker
    have shape : inner ++ marker.closing = inner ++ [space] ++ slash :: rest := by
      simp [closing, slashed]
    rw [shape, (take_drop_while isBlank _ _ blanks (by simp; decide)).2]
    rfl
  · exact absurd (by simp [fromClosing]) closingFree

theorem usage_prefix_of_barrier (closingFree : newline ∉ marker.closing) (runs : Runs)
    {front indent rest : Bytes} (solid : ∃ byte ∈ front, isBlank byte = false)
    (blanks : ∀ byte ∈ indent, isBlank byte = true)
    (found : runs.usage marker <+: front ++ newline :: (indent ++ underscore :: rest)) :
    runs.usage marker <+: front := by
  rcases List.prefix_or_prefix_of_prefix found (List.prefix_append front _) with within | across
  · exact within
  · obtain ⟨beyond, shape⟩ := across
    cases beyond with
    | nil => simp [← shape]
    | cons byte beyond =>
        rw [← shape, List.prefix_append_right_inj] at found
        obtain ⟨tail, whole⟩ := found
        obtain ⟨rfl, follows⟩ := List.cons_eq_cons.mp whole
        change beyond ++ tail = _ at follows
        have next := usage_after_newline marker closingFree runs shape.symm solid
        have low := (take_drop_while isBlank indent (underscore :: rest) blanks (by simp; decide)).2
        rw [← follows, List.dropWhile_append] at low
        split at low
        · next empty => simp [List.isEmpty_iff.mp empty] at next
        · have first := congrArg List.head? low
          rw [List.head?_append] at first
          rcases next with equal | slashed
          · simp [equal, equals, underscore] at first
          · simp [slashed, slash, underscore] at first

/-! Usages do not lie inside one another. -/

variable {marker : Marker}

theorem not_equals_of_blank {byte : UInt8} (blank : isBlank byte = true) : byte ≠ equals := by
  rintro rfl
  exact absurd blank (by decide)

theorem not_semicolon_of_blank {byte : UInt8} (blank : isBlank byte = true) :
    byte ≠ semicolon := by
  rintro rfl
  exact absurd blank (by decide)

theorem name_byte_plain {byte : UInt8} (named : isNameByte byte = true) :
    byte ≠ equals ∧ byte ≠ semicolon := by
  constructor
  · rintro rfl
    exact absurd named (by decide)
  · rintro rfl
    exact absurd named (by decide)

/-- An appended usage is a semicolon and a usage with a blank on each side of its `_`. -/
def plainRuns (name : Bytes) (nameBytes : ∀ byte ∈ name, isNameByte byte = true) : Runs :=
  ⟨[space], [space], name, [], List.forall_mem_singleton.mpr (by decide),
    List.forall_mem_singleton.mpr (by decide), nameBytes, by simp⟩

theorem appended_usage_eq (name : Bytes) (nameBytes : ∀ byte ∈ name, isNameByte byte = true) :
    opening ++ space :: name ++ marker.closing =
      semicolon :: (plainRuns name nameBytes).usage marker := by
  simp [opening, plainRuns, Runs.usage]

theorem usage_semicolon_free (tool : marker.tool.WordChars) (runs : Runs) :
    semicolon ∉ runs.usage marker := by
  have closingFree : semicolon ∉ marker.closing := closing_avoids tool (by decide) (by decide)
  have leadFree : semicolon ∉ runs.lead := fun member =>
    not_semicolon_of_blank (runs.leadBlank _ member) rfl
  have gapFree : semicolon ∉ runs.gap := fun member =>
    not_semicolon_of_blank (runs.gapBlank _ member) rfl
  have nameFree : semicolon ∉ runs.name := fun member =>
    (name_byte_plain (runs.nameBytes _ member)).2 rfl
  have padFree : semicolon ∉ runs.pad := fun member =>
    not_semicolon_of_blank (runs.padBlank _ member) rfl
  have fixed : semicolon ∉ [underscore, equals, space] := by decide
  simp only [List.mem_cons, List.not_mem_nil, or_false, not_or] at fixed
  simp only [Runs.usage, List.mem_append, List.mem_cons, not_or]
  exact ⟨leadFree, fixed.1, gapFree, fixed.2.1, fixed.2.2, nameFree, padFree, closingFree⟩

theorem usage_rest (tool : marker.tool.WordChars) (runs : Runs) :
    let rest := space :: (runs.name ++ (runs.pad ++ marker.closing))
    equals ∉ rest ∧ rest.getLast? = some slash := by
  intro rest
  constructor
  · have closingFree : equals ∉ marker.closing := closing_avoids tool (by decide) (by decide)
    have nameFree : equals ∉ runs.name := fun member =>
      (name_byte_plain (runs.nameBytes _ member)).1 rfl
    have padFree : equals ∉ runs.pad := fun member =>
      not_equals_of_blank (runs.padBlank _ member) rfl
    simp only [rest, List.mem_cons, List.mem_append, not_or]
    exact ⟨by decide, nameFree, padFree, closingFree⟩
  · obtain ⟨front, closed⟩ := closing_last marker
    have shape : rest = (space :: (runs.name ++ (runs.pad ++ front))) ++ [slash] := by
      simp [rest, closed]
    rw [shape, List.getLast?_concat]

/-- No usage starts inside another one, be it of the same tool or not, unless among the blanks at its
front. -/
theorem usage_not_inside {second : Marker} (tool : marker.tool.WordChars) (runs other : Runs)
    {front tail back : Bytes} (same : runs.usage marker = front ++ tail) (nonempty : tail ≠ [])
    (solid : ∃ byte ∈ front, isBlank byte = false) : ¬ other.usage second <+: tail ++ back := by
  rintro ⟨beyond, starts⟩
  obtain ⟨plain, slashed⟩ := usage_rest tool runs
  have lastOf : ∀ text : Bytes, text ≠ [] →
      text <:+ space :: (runs.name ++ (runs.pad ++ marker.closing)) → slash ∈ text := by
    rintro text filled ⟨ahead, joined⟩
    rw [← joined, List.getLast?_append_of_ne_nil _ filled] at slashed
    exact List.mem_of_getLast? slashed
  have slashSolid : isBlank slash ≠ true := by decide
  rcases append_eq_append_cons same.symm with ⟨inner, -, fromGap⟩ | ⟨inner, inLead, -⟩
  · have begins : tail ++ back = other.lead ++ underscore :: (other.gap ++ equals :: space ::
        (other.name ++ (other.pad ++ second.closing)) ++ beyond) := by
      rw [← starts]
      simp [Runs.usage]
    rcases append_eq_append_cons fromGap.symm with ⟨deeper, -, fromRest⟩ | ⟨gapRest, inGap, rfl⟩
    · -- The other one starts behind the `=`, where there is no second `=` for it.
      have tailSuffix : tail <:+ space :: (runs.name ++ (runs.pad ++ marker.closing)) :=
        ⟨deeper, fromRest.symm⟩
      rcases append_eq_append_cons begins with ⟨after, inTail, follows⟩ | ⟨after, inLead, -⟩
      · have afterSuffix : after <:+ tail := ⟨other.lead ++ [underscore], by simp [inTail]⟩
        have filled : after ≠ [] := by
          rintro rfl
          obtain ⟨ahead, joined⟩ := tailSuffix
          rw [← joined, inTail] at slashed
          simp [underscore, slash] at slashed
        simp only [List.append_assoc] at follows
        rcases append_eq_append_cons follows.symm with ⟨later, again, -⟩ | ⟨later, inGap, -⟩
        · exact plain ((afterSuffix.trans tailSuffix).subset (by simp [again]))
        · have member := lastOf after filled (afterSuffix.trans tailSuffix)
          exact slashSolid (other.gapBlank slash (by simp [inGap, member]))
      · have member := lastOf tail nonempty tailSuffix
        exact slashSolid (other.leadBlank slash (by simp [inLead, member]))
    · -- The other one starts between `_` and `=`, where only blanks come before the `=`.
      have blanks : ∀ byte ∈ gapRest, isBlank byte = true := fun byte member =>
        runs.gapBlank byte (by simp [inGap, member])
      have mine := (take_drop_while isBlank gapRest (equals :: space ::
        (runs.name ++ (runs.pad ++ marker.closing)) ++ back) blanks (by simp; decide)).2
      have others := (take_drop_while isBlank other.lead (underscore :: (other.gap ++ equals ::
        space :: (other.name ++ (other.pad ++ second.closing)) ++ beyond)) other.leadBlank
          (by simp; decide)).2
      rw [List.append_assoc] at begins
      rw [begins, others] at mine
      exact absurd (List.cons_eq_cons.mp mine).1 (by decide)
  · obtain ⟨byte, member, notBlank⟩ := solid
    have blank := runs.leadBlank byte (by simp [inLead, member])
    rw [notBlank] at blank
    cases blank

end Marker

end BlankUse
