import BlankUse.Diagnostic
import BlankUse.Proofs.Occurrence
import Mathlib.Data.List.TakeWhile
import Mathlib.Logic.IsEmpty.Basic

/-!
The grammar of compiler messages, and what the search makes of it. A reading of a line cuts it into
text before the message, the mark of a source file, two fields, a wording and text behind. The search
finds a reading whenever there is one. Behind a given text before it, the fields can be read in one way
only, since a colon ends each of them; a name at the end can be read in several ways, and the longest is
taken.
-/

namespace BlankUse

open Diagnostic

/-- A message of a wording, and the name in it. -/
inductive Wording.Tells : Wording → Text → Text → Prop
  | noProvider {name : Text} (filled : name ≠ [])
      (plain : ∀ c ∈ name, c ≠ ':' ∧ c ≠ ';' ∧ Text.isBlank c = false) :
      Tells .noProvider name ("no required module provides package ".toList ++ name)
  | unusedBefore {name : Text} (filled : name ≠ []) (word : ∀ c ∈ name, Text.isWord c = true) :
      Tells .unusedBefore name ("declared and not used: ".toList ++ name)
  | unusedAnd {name : Text} (filled : name ≠ []) (word : ∀ c ∈ name, Text.isWord c = true) :
      Tells .unusedAfter name (name ++ " declared and not used".toList)
  | unusedBut {name : Text} (filled : name ≠ []) (word : ∀ c ∈ name, Text.isWord c = true) :
      Tells .unusedAfter name (name ++ " declared but not used".toList)

/-- A way to read a line as a message of a wording with text on both sides. -/
structure Reading (wording : Wording) (line : Text) where
  before : Text
  field : Text
  column : Text
  name : Text
  message : Text
  behind : Text
  shape : line = before ++ (".go:".toList ++ (field ++ ([':'] ++ (column ++ ([':', ' '] ++
    (message ++ behind))))))
  fieldFilled : field ≠ []
  fieldPlain : ∀ c ∈ field, c ≠ ':' ∧ Text.isBlank c = false
  columnFilled : column ≠ []
  columnDecimal : ∀ c ∈ column, Text.isDigit c = true
  told : wording.Tells name message

namespace Reading

variable {wording : Wording} {line : Text}

def found (reading : Reading wording line) (offset : Nat) : Match where
  line := reading.field
  column := reading.column
  name := reading.name
  start := offset + reading.before.length
  stop := offset + reading.before.length + 4 + reading.field.length + 1 + reading.column.length + 2 +
    reading.message.length

/-- No other reading has less before it. Those with the same before it have the same fields, and a
name that is not longer. -/
structure Foremost (reading : Reading wording line) : Prop where
  first : ∀ other : Reading wording line, reading.before.length ≤ other.before.length
  field_unique : ∀ other : Reading wording line, other.before = reading.before →
    other.field = reading.field
  column_unique : ∀ other : Reading wording line, other.before = reading.before →
    other.column = reading.column
  name_longest : ∀ other : Reading wording line, other.before = reading.before →
    other.name <+: reading.name

end Reading

/-! Runs and the fields of a position. -/

theorem is_field_char_iff (c : Char) :
    isFieldChar c = true ↔ c ≠ ':' ∧ Text.isBlank c = false := by
  simp [isFieldChar]

theorem is_package_char_iff (c : Char) :
    isPackageChar c = true ↔ c ≠ ':' ∧ c ≠ ';' ∧ Text.isBlank c = false := by
  simp [isPackageChar, and_assoc]

theorem is_prefix_append (front rest : Text) : front.isPrefixOf? (front ++ rest) = some rest :=
  List.isPrefixOf?_eq_some_iff_append_eq.mpr rfl

theorem run_of_members {member : Char → Bool} {taken rest : Text} (filled : taken ≠ [])
    (inside : ∀ c ∈ taken, member c = true) (stops : ∀ c ∈ rest.head?, member c = false) :
    run? member (taken ++ rest) = some (taken, rest) := by
  obtain ⟨takes, leaves⟩ := take_drop_while member taken rest inside stops
  rw [run?, takes, leaves]
  split
  · exact absurd rfl filled
  · rfl

theorem run_of_start {member : Char → Bool} {taken : Text} (filled : taken ≠ [])
    (inside : ∀ c ∈ taken, member c = true) (rest : Text) :
    run? member (taken ++ rest) = some (taken ++ rest.takeWhile member, rest.dropWhile member) := by
  have shape : taken ++ rest = (taken ++ rest.takeWhile member) ++ rest.dropWhile member := by
    rw [List.append_assoc, List.takeWhile_append_dropWhile]
  rw [shape]
  apply run_of_members (by simp [filled])
  · intro c held
    rcases List.mem_append.mp held with early | late
    · exact inside c early
    · exact List.mem_takeWhile_imp late
  · intro c first
    have stopped := List.head?_dropWhile_not member rest
    rw [Option.mem_def.mp first] at stopped
    simpa using stopped

theorem run_some {member : Char → Bool} {text taken rest : Text}
    (ran : run? member text = some (taken, rest)) :
    text = taken ++ rest ∧ taken ≠ [] ∧ ∀ c ∈ taken, member c = true := by
  simp only [run?] at ran
  split at ran
  · cases ran
  · next filled =>
    cases ran
    refine ⟨List.takeWhile_append_dropWhile.symm, filled, ?_⟩
    intro c held
    exact List.mem_takeWhile_imp held

theorem position_eq_some {text line column rest : Text} :
    position? text = some (line, column, rest) ↔
      text = extension ++ (line ++ ([':'] ++ (column ++ ([':', ' '] ++ rest)))) ∧
        (line ≠ [] ∧ ∀ c ∈ line, isFieldChar c = true) ∧
        (column ≠ [] ∧ ∀ c ∈ column, Text.isDigit c = true) := by
  constructor
  · intro read
    simp only [position?, Option.bind_eq_bind, Option.bind_eq_some_iff, Option.pure_def] at read
    obtain ⟨afterExtension, marked, ⟨field, afterLine⟩, lineRan, afterColon, colon,
      ⟨digits, afterColumn⟩, columnRan, last, ends, made⟩ := read
    cases made
    obtain ⟨rfl, lineFilled, lineInside⟩ := run_some lineRan
    obtain ⟨rfl, columnFilled, columnInside⟩ := run_some columnRan
    simp only [List.isPrefixOf?_eq_some_iff_append_eq] at marked colon ends
    rw [← marked, ← colon, ← ends]
    exact ⟨rfl, ⟨lineFilled, lineInside⟩, columnFilled, columnInside⟩
  · rintro ⟨rfl, ⟨lineFilled, lineInside⟩, columnFilled, columnInside⟩
    have lineRan : run? isFieldChar (line ++ ([':'] ++ (column ++ ([':', ' '] ++ rest)))) =
        some (line, _) := run_of_members lineFilled lineInside (by simp; decide)
    have columnRan : run? Text.isDigit (column ++ ([':', ' '] ++ rest)) = some (column, _) :=
      run_of_members columnFilled columnInside (by simp; decide)
    simp only [position?, is_prefix_append, lineRan, columnRan, Option.bind_eq_bind,
      Option.bind_some, Option.pure_def]

/-! Wordings. -/

theorem read_after_phrase {name phrase : Text} (filled : name ≠ [])
    (word : ∀ c ∈ name, Text.isWord c = true) (told : phrase = andPhrase ∨ phrase = butPhrase)
    (behind : Text) :
    Wording.unusedAfter.read? (name ++ (phrase ++ behind)) =
      some ⟨name, name.length + phrase.length⟩ := by
  have spaced : phrase.head? = some ' ' := by
    rcases told with rfl | rfl <;> decide
  have stops : ∀ c ∈ (phrase ++ behind).head?, Text.isWord c = false := by
    intro c first
    rw [List.head?_append, spaced, Option.some_or, Option.mem_some_iff] at first
    rw [← first]
    decide
  have differ : ¬ andPhrase <+: butPhrase ++ behind := by
    intro starts
    have within : andPhrase <+: butPhrase :=
      List.prefix_of_prefix_length_le starts (List.prefix_append _ _) (by decide)
    exact absurd within (by decide)
  have found : [andPhrase, butPhrase].find? (·.isPrefixOf (phrase ++ behind)) = some phrase := by
    rcases told with rfl | rfl
    · rw [List.find?_cons_of_pos (by simp [List.isPrefixOf_iff_prefix])]
    · rw [List.find?_cons_of_neg (by simpa [List.isPrefixOf_iff_prefix] using differ),
        List.find?_cons_of_pos (by simp [List.isPrefixOf_iff_prefix])]
  simp only [Wording.read?, nameThenPhrase, run_of_members filled word stops, Option.bind_eq_bind,
    Option.bind_some, found]
  rfl

theorem read_phrase_name {phrase name : Text} {member : Char → Bool} (filled : name ≠ [])
    (inside : ∀ c ∈ name, member c = true) (behind : Text) :
    ∃ longest width, phraseThenName phrase member (phrase ++ (name ++ behind)) =
      some ⟨longest, width⟩ ∧ name <+: longest := by
  refine ⟨name ++ behind.takeWhile member, phrase.length + (name ++ behind.takeWhile member).length,
    ?_, List.prefix_append _ _⟩
  simp only [phraseThenName, is_prefix_append, run_of_start filled inside, Option.bind_eq_bind,
    Option.bind_some]
  rfl

theorem Wording.Tells.read {wording : Wording} {name message : Text}
    (told : wording.Tells name message) (behind : Text) :
    ∃ longest width, wording.read? (message ++ behind) = some ⟨longest, width⟩ ∧
      name <+: longest := by
  cases told with
  | noProvider filled plain =>
      rw [List.append_assoc]
      exact read_phrase_name filled (fun c held => (is_package_char_iff c).mpr (plain c held)) behind
  | unusedBefore filled word =>
      rw [List.append_assoc]
      exact read_phrase_name filled word behind
  | unusedAnd filled word =>
      rw [List.append_assoc]
      exact ⟨name, _, read_after_phrase filled word (Or.inl rfl) behind, List.prefix_rfl⟩
  | unusedBut filled word =>
      rw [List.append_assoc]
      exact ⟨name, _, read_after_phrase filled word (Or.inr rfl) behind, List.prefix_rfl⟩

theorem phrase_name_of_read {phrase text : Text} {member : Char → Bool} {complaint : Complaint}
    (read : phraseThenName phrase member text = some complaint) :
    complaint.name ≠ [] ∧ (∀ c ∈ complaint.name, member c = true) ∧
      ∃ behind, text = phrase ++ complaint.name ++ behind ∧
        complaint.width = (phrase ++ complaint.name).length := by
  simp only [phraseThenName, Option.bind_eq_bind, Option.bind_eq_some_iff, Option.pure_def] at read
  obtain ⟨rest, starts, ⟨name, behind⟩, ran, made⟩ := read
  cases made
  obtain ⟨rfl, filled, inside⟩ := run_some ran
  rw [List.isPrefixOf?_eq_some_iff_append_eq] at starts
  exact ⟨filled, inside, behind, by simp [← starts], by simp⟩

theorem name_phrase_of_read {text : Text} {complaint : Complaint}
    (read : Wording.unusedAfter.read? text = some complaint) :
    complaint.name ≠ [] ∧ (∀ c ∈ complaint.name, Text.isWord c = true) ∧
      ∃ phrase behind, (phrase = andPhrase ∨ phrase = butPhrase) ∧
        text = complaint.name ++ phrase ++ behind ∧
        complaint.width = (complaint.name ++ phrase).length := by
  simp only [Wording.read?, nameThenPhrase, Option.bind_eq_bind, Option.bind_eq_some_iff,
    Option.pure_def] at read
  obtain ⟨⟨name, rest⟩, ran, phrase, found, made⟩ := read
  cases made
  obtain ⟨rfl, filled, inside⟩ := run_some ran
  have starts : phrase.isPrefixOf rest = true := by simpa using List.find?_some found
  obtain ⟨behind, rfl⟩ := List.isPrefixOf_iff_prefix.mp starts
  have told : phrase = andPhrase ∨ phrase = butPhrase := by
    simpa using List.mem_of_find?_eq_some found
  exact ⟨filled, inside, phrase, behind, told, by simp, by simp⟩

theorem tells_of_read {wording : Wording} {text : Text} {complaint : Complaint}
    (read : wording.read? text = some complaint) :
    ∃ message behind, text = message ++ behind ∧ wording.Tells complaint.name message ∧
      complaint.width = message.length := by
  cases wording with
  | noProvider =>
      obtain ⟨filled, inside, behind, shape, width⟩ := phrase_name_of_read read
      exact ⟨_, behind, shape,
        .noProvider filled fun c held => (is_package_char_iff c).mp (inside c held), width⟩
  | unusedBefore =>
      obtain ⟨filled, inside, behind, shape, width⟩ := phrase_name_of_read read
      exact ⟨_, behind, shape, .unusedBefore filled inside, width⟩
  | unusedAfter =>
      obtain ⟨filled, inside, phrase, behind, told, shape, width⟩ := name_phrase_of_read read
      rcases told with rfl | rfl
      · exact ⟨_, behind, shape, .unusedAnd filled inside, width⟩
      · exact ⟨_, behind, shape, .unusedBut filled inside, width⟩

/-! Messages at the front of a text. -/

theorem match_of_position {text line column rest : Text}
    (positioned : position? text = some (line, column, rest)) (wording : Wording) (offset : Nat) :
    matchAt? wording offset text = (wording.read? rest).map fun complaint =>
      ⟨line, column, complaint.name, offset,
        offset + extension.length + line.length + 1 + column.length + 2 + complaint.width⟩ := by
  simp only [matchAt?, positioned, Option.bind_eq_bind, Option.bind_some]
  cases wording.read? rest <;> rfl

namespace Reading

variable {wording : Wording} {text rest : Text} {c : Char} {offset : Nat}

theorem position (reading : Reading wording text) (front : reading.before = []) :
    position? text = some (reading.field, reading.column, reading.message ++ reading.behind) := by
  apply position_eq_some.mpr
  refine ⟨?_, ⟨reading.fieldFilled, fun c held => ?_⟩, reading.columnFilled, reading.columnDecimal⟩
  · have shape := reading.shape
    rwa [front, List.nil_append] at shape
  · exact (is_field_char_iff c).mpr (reading.fieldPlain c held)

theorem matched (reading : Reading wording text) (front : reading.before = []) (offset : Nat) :
    ∃ found, matchAt? wording offset text = some found ∧ found.line = reading.field ∧
      found.column = reading.column ∧ reading.name <+: found.name := by
  obtain ⟨longest, width, read, starts⟩ := reading.told.read reading.behind
  rw [match_of_position (reading.position front), read]
  exact ⟨_, rfl, rfl, rfl, starts⟩

theorem of_match {found : Match} (matched : matchAt? wording offset text = some found) :
    ∃ reading : Reading wording text, reading.before = [] ∧ found = reading.found offset := by
  simp only [matchAt?, Option.bind_eq_bind, Option.bind_eq_some_iff, Option.pure_def] at matched
  obtain ⟨⟨field, column, rest⟩, positioned, complaint, read, made⟩ := matched
  obtain ⟨rfl, ⟨fieldFilled, fieldInside⟩, columnFilled, columnInside⟩ :=
    position_eq_some.mp positioned
  obtain ⟨message, behind, rfl, told, width⟩ := tells_of_read read
  refine ⟨⟨[], field, column, complaint.name, message, behind, rfl, fieldFilled,
    fun c held => (is_field_char_iff c).mp (fieldInside c held), columnFilled, columnInside, told⟩,
    rfl, ?_⟩
  cases made
  simp [found, width, extension]

theorem foremost_of_match {reading : Reading wording text} (front : reading.before = [])
    (matched : matchAt? wording offset text = some (reading.found offset)) : reading.Foremost := by
  have same : ∀ other : Reading wording text, other.before = reading.before →
      reading.field = other.field ∧ reading.column = other.column ∧
        other.name <+: reading.name := by
    intro other together
    obtain ⟨found, again, line, column, name⟩ := other.matched (together.trans front) offset
    rw [matched] at again
    cases again
    exact ⟨line, column, name⟩
  refine ⟨?_, ?_, ?_, ?_⟩
  · intro other
    simp [front]
  · intro other together
    exact (same other together).1.symm
  · intro other together
    exact (same other together).2.1.symm
  · intro other together
    exact (same other together).2.2

/-! One more character in front. -/

def push (reading : Reading wording rest) (c : Char) : Reading wording (c :: rest) :=
  { reading with
    before := c :: reading.before
    shape := by rw [List.cons_append, ← reading.shape] }

theorem exists_push (reading : Reading wording (c :: rest)) (moved : reading.before ≠ []) :
    ∃ shorter : Reading wording rest, reading = shorter.push c := by
  obtain ⟨before, field, column, name, message, behind, shape, fieldFilled, fieldPlain, columnFilled,
    columnDecimal, told⟩ := reading
  obtain ⟨first, before, rfl⟩ := List.exists_cons_of_ne_nil moved
  obtain ⟨rfl, remaining⟩ := List.cons_eq_cons.mp shape
  exact ⟨⟨before, field, column, name, message, behind, remaining, fieldFilled, fieldPlain, columnFilled,
    columnDecimal, told⟩, rfl⟩

theorem push_found (reading : Reading wording rest) (c : Char) (offset : Nat) :
    (reading.push c).found offset = reading.found (offset + 1) := by
  simp only [found, push, List.length_cons, Match.mk.injEq, true_and]
  omega

/-- If nothing is matched at the front, every reading has something before it. -/
theorem moved_of_unmatched (missing : matchAt? wording offset text = none)
    (reading : Reading wording text) : reading.before ≠ [] := by
  intro front
  obtain ⟨found, matched, -⟩ := reading.matched front offset
  rw [missing] at matched
  cases matched

theorem Foremost.push {reading : Reading wording rest} (foremost : reading.Foremost) {c : Char}
    (missing : matchAt? wording offset (c :: rest) = none) : (reading.push c).Foremost := by
  have others : ∀ other : Reading wording (c :: rest),
      ∃ shorter : Reading wording rest, other = shorter.push c := fun other =>
    other.exists_push (moved_of_unmatched missing other)
  have together : ∀ shorter : Reading wording rest,
      (shorter.push c).before = (reading.push c).before → shorter.before = reading.before :=
    fun shorter same => (List.cons_eq_cons.mp same).2
  refine ⟨?_, ?_, ?_, ?_⟩
  · intro other
    obtain ⟨shorter, rfl⟩ := others other
    exact Nat.succ_le_succ (foremost.first shorter)
  · intro other same
    obtain ⟨shorter, rfl⟩ := others other
    exact foremost.field_unique shorter (together shorter same)
  · intro other same
    obtain ⟨shorter, rfl⟩ := others other
    exact foremost.column_unique shorter (together shorter same)
  · intro other same
    obtain ⟨shorter, rfl⟩ := others other
    exact foremost.name_longest shorter (together shorter same)

end Reading

/-! The whole line. -/

theorem search_none_iff (wording : Wording) (offset : Nat) (line : Text) :
    search? wording offset line = none ↔ IsEmpty (Reading wording line) := by
  induction line generalizing offset with
  | nil =>
      constructor
      · intro _
        refine ⟨fun reading => ?_⟩
        have shape := reading.shape
        simp at shape
      · intro _
        rfl
  | cons c rest ih =>
      rw [search?]
      cases matched : matchAt? wording offset (c :: rest) with
      | some found =>
          obtain ⟨reading, -⟩ := Reading.of_match matched
          simp only [reduceCtorEq, false_iff, not_isEmpty_iff]
          exact ⟨reading⟩
      | none =>
          dsimp only
          rw [ih]
          constructor
          · intro unread
            refine ⟨fun reading => ?_⟩
            obtain ⟨shorter, -⟩ := reading.exists_push (Reading.moved_of_unmatched matched reading)
            exact unread.false shorter
          · intro unread
            exact ⟨fun reading => unread.false (reading.push c)⟩

/-- What the search finds is the foremost reading of the line. -/
theorem search_foremost {wording : Wording} {offset : Nat} {line : Text} {found : Match}
    (searched : search? wording offset line = some found) :
    ∃ reading : Reading wording line, found = reading.found offset ∧ reading.Foremost := by
  induction line generalizing offset with
  | nil => cases searched
  | cons c rest ih =>
      rw [search?] at searched
      cases matched : matchAt? wording offset (c :: rest) with
      | some here =>
          rw [matched] at searched
          cases searched
          obtain ⟨reading, front, rfl⟩ := Reading.of_match matched
          exact ⟨reading, rfl, Reading.foremost_of_match front matched⟩
      | none =>
          rw [matched] at searched
          obtain ⟨reading, rfl, foremost⟩ := ih searched
          exact ⟨reading.push c, (reading.push_found c offset).symm, foremost.push matched⟩

/-- A line is recognised exactly if it has a reading in a wording of the kind. What is told is then the
foremost reading in the first of the wordings that has one: the shortest text before it, the only fields
that can follow that text, and the longest name. -/
theorem match_reads_grammar (kind : Kind) (line : Text) :
    ((∃ found, kind.match? line = some found) ↔
      ∃ wording ∈ kind.wordings, Nonempty (Reading wording line)) ∧
    ∀ found, kind.match? line = some found →
      ∃ passed wording later, kind.wordings = passed ++ wording :: later ∧
        (∀ other ∈ passed, IsEmpty (Reading other line)) ∧
        ∃ reading : Reading wording line, found = reading.found 0 ∧ reading.Foremost := by
  constructor
  · rw [← Option.ne_none_iff_exists', Kind.match?, ne_eq, List.findSome?_eq_none_iff]
    simp only [search_none_iff, not_forall, not_isEmpty_iff, exists_prop]
  · intro found matched
    obtain ⟨passed, wording, later, split, searched, unread⟩ :=
      List.findSome?_eq_some_iff.mp matched
    refine ⟨passed, wording, later, split, ?_, search_foremost searched⟩
    intro other member
    exact (search_none_iff other 0 line).mp (unread other member)

/-- The wording with the name at its end is told, although the other one comes first in the line. -/
theorem match_reads_grammar_preferred :
    let line := "a.go:1:2: w declared but not used b.go:x:٣: declared and not used: vw;".toList
    let found : Match := ⟨['x'], ['٣'], ['v', 'w'], 35, 69⟩
    Kind.unused.match? line = some found ∧
      ∃ passed wording later, Kind.unused.wordings = passed ++ wording :: later ∧
        (∀ other ∈ passed, IsEmpty (Reading other line)) ∧
        ∃ reading : Reading wording line, found = reading.found 0 ∧ reading.Foremost := by
  intro line found
  have matched : Kind.unused.match? line = some found := by decide
  exact ⟨matched, (match_reads_grammar .unused line).2 found matched⟩

end BlankUse
