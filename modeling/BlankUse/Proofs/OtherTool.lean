import BlankUse.Proofs.AddingToggle
import BlankUse.Proofs.Decoding
import BlankUse.Proofs.LineByLine
import BlankUse.Proofs.OwnLine

/-!
Two tools on the same code. Neither a closing nor a usage of one tool starts inside the usages of the
other: the first slash behind a name begins the comment, and the comment names the tool. Since none of
them holds a semicolon, they stand beside the usages that were added, and there they stood before. So
code in which a tool finds nothing to remove stays so when the other tool adds its usages.
-/

namespace BlankUse

open Byte LineBuffer

/-- No occurrence of the word starts inside the segment, whatever follows it. -/
def Bars (segment word : Bytes) : Prop :=
  ∀ front tail right, segment = front ++ tail → tail ≠ [] → ¬ word <+: tail ++ right

section

variable {word left right front back segment : Bytes} {byte : UInt8}

theorem beside_byte (free : byte ∉ word) (same : left ++ byte :: right = front ++ word ++ back) :
    (∃ tail, left = front ++ word ++ tail) ∨ ∃ ahead, right = ahead ++ word ++ back := by
  rcases append_eq_append_cons same.symm with ⟨inner, across, rfl⟩ | ⟨inner, before, -⟩
  · rcases append_eq_append_cons across with ⟨ahead, -, behind⟩ | ⟨ahead, -, held⟩
    · exact Or.inr ⟨ahead, by rw [behind]⟩
    · exact absurd (by simp [held]) free
  · exact Or.inl ⟨inner, before⟩

theorem Bars.behind (bars : Bars segment word) (same : segment ++ right = front ++ word ++ back) :
    ∃ ahead, right = ahead ++ word ++ back := by
  rw [List.append_assoc] at same
  rcases List.append_eq_append_iff.mp same with ⟨ahead, -, behind⟩ | ⟨tail, shape, starts⟩
  · exact ⟨ahead, by rw [behind, List.append_assoc]⟩
  · by_cases empty : tail = []
    · rw [empty, List.nil_append] at starts
      exact ⟨[], by simp [← starts]⟩
    · exact absurd ⟨back, starts⟩ (bars front tail right shape empty)

theorem bars_nil (word : Bytes) : Bars [] word := by
  intro front tail right shape nonempty
  exact absurd (List.append_eq_nil_iff.mp shape.symm).2 nonempty

theorem Bars.cons (bars : Bars segment word) (nonempty : word ≠ []) (free : byte ∉ word) :
    Bars (byte :: segment) word := by
  intro front tail right shape filled starts
  cases front with
  | nil =>
      obtain ⟨first, word, rfl⟩ := List.exists_cons_of_ne_nil nonempty
      rw [← List.nil_append tail, ← shape] at starts
      obtain ⟨rest, begins⟩ := starts
      rw [List.cons_append, List.cons_append] at begins
      exact free (by simp [(List.cons_eq_cons.mp begins).1])
  | cons first front => exact bars front tail right (List.cons_eq_cons.mp shape).2 filled starts

theorem Bars.append {other : Bytes} (bars : Bars segment word) (others : Bars other word) :
    Bars (segment ++ other) word := by
  intro front tail right shape filled starts
  rcases List.append_eq_append_iff.mp shape with ⟨ahead, -, behind⟩ | ⟨rest, within, follows⟩
  · exact others ahead tail right behind filled starts
  · by_cases empty : rest = []
    · rw [empty, List.nil_append] at follows
      exact others [] tail right (by simp [follows]) filled starts
    · rw [follows, List.append_assoc] at starts
      exact bars front rest (other ++ right) within empty starts

theorem bars_flat_map {Item : Type} (items : List Item) (render : Item → Bytes)
    (each : ∀ item ∈ items, Bars (render item) word) : Bars (items.flatMap render) word := by
  induction items with
  | nil => exact bars_nil word
  | cons item rest ih =>
      rw [List.flatMap_cons]
      apply (each item (by simp)).append
      apply ih
      intro other member
      exact each other (by simp [member])

end

namespace Marker

variable {mine other : Marker}

/-! A comment tells the name of its tool. -/

theorem tool_of_comment (word : mine.tool.WordChars) (otherWord : other.tool.WordChars)
    {right back : Bytes} (same : mine.comment ++ right = other.comment ++ back) :
    mine.tool = other.tool := by
  have names : Utf8.encode mine.tool ++ (ascii [' ', '*', '/'] ++ right) =
      Utf8.encode other.tool ++ (ascii [' ', '*', '/'] ++ back) := by
    simpa only [comment, List.append_assoc, List.append_cancel_left_eq] using same
  have stops : ∀ rest : Bytes, ∀ byte ∈ (ascii [' ', '*', '/'] ++ rest).head?,
      decide (IsWordByte byte) = false := by
    intro rest byte first
    obtain rfl : space = byte := by simpa [ascii, space] using first
    decide
  apply Utf8.encode_injective
  exact (same_runs (fun byte => decide (IsWordByte byte)) names
    (fun byte member => by simpa using word.bytes byte member)
    (fun byte member => by simpa using otherWord.bytes byte member) (stops right) (stops back)).1

theorem Runs.pad_blank (runs : Runs) : ∀ byte ∈ runs.pad ++ [space], isBlank byte = true := by
  intro byte member
  rcases List.mem_append.mp member with early | late
  · exact runs.padBlank byte early
  · rw [List.mem_singleton.mp late]
    decide

theorem comment_stops_blanks (marker : Marker) (rest : Bytes) :
    ∀ byte ∈ (marker.comment ++ rest).head?, isBlank byte = false := by
  intro byte first
  obtain ⟨inner, slashed⟩ := comment_cons marker
  obtain rfl : slash = byte := by simpa [slashed] using first
  decide

theorem Runs.pad_stops_name (runs : Runs) (rest : Bytes) :
    ∀ byte ∈ (runs.pad ++ [space] ++ rest).head?, isNameByte byte = false := by
  intro byte first
  apply not_name_of_blank
  apply runs.pad_blank
  rw [List.head?_append_of_ne_nil _ (by simp)] at first
  exact List.mem_of_mem_head? first

/-- A usage is read in one way only, so two usages at one place have their comments at one place. -/
theorem comment_of_usage (runs others : Runs) {right back : Bytes}
    (same : runs.usage mine ++ right = others.usage other ++ back) :
    mine.comment ++ right = other.comment ++ back := by
  have fromLead : runs.lead ++ underscore :: (runs.gap ++ equals :: space :: (runs.name ++
        (runs.pad ++ [space] ++ (mine.comment ++ right)))) =
      others.lead ++ underscore :: (others.gap ++ equals :: space :: (others.name ++
        (others.pad ++ [space] ++ (other.comment ++ back)))) := by
    simpa [Runs.usage, closing] using same
  have fromLow := (same_runs isBlank fromLead runs.leadBlank others.leadBlank (by simp; decide)
    (by simp; decide)).2
  have fromEquals := (same_runs isBlank (List.cons_eq_cons.mp fromLow).2 runs.gapBlank
    others.gapBlank (by simp; decide) (by simp; decide)).2
  have fromName := (List.cons_eq_cons.mp (List.cons_eq_cons.mp fromEquals).2).2
  have fromPad := (same_runs isNameByte fromName runs.nameBytes others.nameBytes
    (runs.pad_stops_name _) (others.pad_stops_name _)).2
  exact (same_runs isBlank fromPad runs.pad_blank others.pad_blank (comment_stops_blanks mine _)
    (comment_stops_blanks other _)).2

/-! What does not start inside a usage of another tool. -/

section

variable (word : mine.tool.WordChars) (otherWord : other.tool.WordChars)
  (distinct : mine.tool ≠ other.tool)

include word otherWord distinct

theorem usage_bars_usage (runs others : Runs) : Bars (runs.usage mine) (others.usage other) := by
  intro front tail right shape nonempty starts
  by_cases solid : ∃ byte ∈ front, isBlank byte = false
  · exact usage_not_inside word runs others shape nonempty solid starts
  · -- With the blanks in front of it, the other usage starts where this one does.
    have blanks : ∀ byte ∈ front, isBlank byte = true := by simpa using solid
    obtain ⟨back, begins⟩ := starts
    let widened : Runs := ⟨front ++ others.lead, others.gap, others.name, others.pad, by
      intro byte member
      rcases List.mem_append.mp member with early | late
      · exact blanks byte early
      · exact others.leadBlank byte late, others.gapBlank, others.nameBytes, others.padBlank⟩
    have same : runs.usage mine ++ right = widened.usage other ++ back := by
      have joined := congrArg (front ++ ·) begins
      simp only [← List.append_assoc, ← shape] at joined
      rw [← joined]
      simp [widened, Runs.usage]
    exact distinct (tool_of_comment word otherWord (comment_of_usage runs widened same))

theorem comment_bars_closing {ahead : Bytes} (plain : slash ∉ ahead) :
    Bars (ahead ++ mine.comment) other.closing := by
  intro front tail right shape nonempty starts
  obtain ⟨back, begins⟩ := starts
  obtain ⟨inner, mineShape, innerPlain, starred⟩ := comment_shape word
  obtain ⟨rest, otherShape⟩ := comment_cons other
  have whole : (front ++ [space]) ++ slash :: (rest ++ back) =
      ahead ++ slash :: (inner ++ slash :: right) := by
    have joined := congrArg (front ++ ·) begins
    simp only [← List.append_assoc, ← shape] at joined
    simpa [closing, otherShape, mineShape] using joined
  rcases append_eq_append_cons whole with ⟨behind, spaced, follows⟩ | ⟨gap, before, follows⟩
  · rcases append_eq_append_cons follows.symm with ⟨beyond, rfl, -⟩ | ⟨gap, within, again⟩
    · -- The closing would start at the last byte, which is a slash.
      have ends : front ++ [space] = front ++ (tail ++ beyond) := by
        rw [spaced, ← List.append_assoc, ← shape, mineShape]
        simp
      have last : tail = [space] := by
        have short := List.append_cancel_left ends
        cases tail with
        | nil => exact absurd rfl nonempty
        | cons first tail => simp_all
      have slashed := congrArg List.getLast? shape
      rw [mineShape, last, List.getLast?_concat, ← List.cons_append, ← List.append_assoc,
        List.getLast?_concat] at slashed
      exact absurd slashed (by decide)
    · cases gap with
      | nil =>
          rw [List.append_nil] at within
          have last := congrArg List.getLast? spaced
          rw [List.getLast?_concat, List.getLast?_append, List.getLast?_cons, ← within, starred] at last
          simp [space] at last
      | cons first gap =>
          have held := (List.cons_eq_cons.mp again).1
          exact innerPlain (by simp [within, held])
  · cases gap with
    | nil =>
        have same := (List.cons_eq_cons.mp follows).2
        have comments : mine.comment ++ right = other.comment ++ back := by
          rw [mineShape, otherShape]
          simpa using same.symm
        exact distinct (tool_of_comment word otherWord comments)
    | cons first gap =>
        have held := (List.cons_eq_cons.mp follows).1
        exact plain (by simp [before, held])

theorem render_bars_closing {name : Text} (named : name.WordChars) :
    Bars (mine.render name) other.closing := by
  have plain : slash ∉ [space, underscore, space, equals, space] ++ Utf8.encode name ++ [space] := by
    have spelled : slash ∉ Utf8.encode name := fun inside =>
      absurd (named.bytes slash inside) (by decide)
    have fixed : slash ∉ [space, underscore, space, equals, space] ++ [space] := by decide
    simp only [List.mem_append, not_or] at fixed ⊢
    exact ⟨⟨fixed.1, spelled⟩, fixed.2⟩
  have shape : mine.render name = semicolon ::
      ([space, underscore, space, equals, space] ++ Utf8.encode name ++ [space] ++ mine.comment) := by
    simp [render, opening, closing]
  rw [shape]
  apply (comment_bars_closing word otherWord distinct plain).cons other.closing_ne_nil
  exact closing_avoids otherWord (by decide) (by decide)

theorem render_bars_usage {name : Text} (named : name.WordChars) (runs : Runs) :
    Bars (mine.render name) (runs.usage other) := by
  have nameBytes : ∀ byte ∈ Utf8.encode name, isNameByte byte = true := fun byte member =>
    is_name_byte_of_word (named.bytes byte member)
  rw [render, appended_usage_eq (Utf8.encode name) nameBytes]
  apply (usage_bars_usage word otherWord distinct _ runs).cons
  · simp [Runs.usage]
  · exact usage_semicolon_free otherWord runs

end

/-! Usages between other text. -/

theorem beside_usages {names : List Text} (filled : names ≠ []) {word : Bytes}
    (free : semicolon ∉ word) (barred : ∀ name ∈ names, Bars (mine.render name) word)
    {left right front back : Bytes}
    (same : left ++ names.flatMap mine.render ++ right = front ++ word ++ back) :
    (∃ tail, left = front ++ word ++ tail) ∨ ∃ ahead, right = ahead ++ word ++ back := by
  obtain ⟨inside, shape⟩ : ∃ inside, names.flatMap mine.render = semicolon :: inside := by
    obtain ⟨inside, shape⟩ := usages_shape mine names filled
    exact ⟨_, shape⟩
  have bars := bars_flat_map names mine.render barred
  rw [shape] at bars same
  have later : Bars inside word := by
    intro ahead tail rest within
    exact bars (semicolon :: ahead) tail rest (by rw [within, List.cons_append])
  rw [List.append_assoc, List.cons_append] at same
  rcases beside_byte free same with before | ⟨ahead, behind⟩
  · exact Or.inl before
  · exact Or.inr (later.behind behind)

/-- What is found on a line with usages, or behind it, is found without them, if this holds of what
is behind. -/
theorem infix_without_usages {names : List Text} {word : Bytes} (free : semicolon ∉ word)
    (barred : ∀ name ∈ names, Bars (mine.render name) word) {front line marked plain : Bytes}
    (later : ∀ ahead, word <:+: ahead ++ marked → word <:+: ahead ++ plain)
    (found : word <:+: front ++ appendBeforeReturn (names.flatMap mine.render) line ++ marked) :
    word <:+: front ++ line ++ plain := by
  by_cases unused : names = []
  · rw [unused, List.flatMap_nil, append_before_return_nil] at found
    exact later _ found
  · have whole : front ++ line ++ plain = (front ++ body line) ++ (ending line ++ plain) := by
      conv => lhs; rw [← body_append_ending line]
      simp
    have same : front ++ appendBeforeReturn (names.flatMap mine.render) line ++ marked =
        (front ++ body line) ++ names.flatMap mine.render ++ (ending line ++ marked) := by
      simp [append_before_return_eq]
    rw [same] at found
    rw [whole]
    obtain ⟨ahead, back, shape⟩ := found
    rcases beside_usages unused free barred shape.symm with ⟨tail, before⟩ | ⟨gap, behind⟩
    · have within : word <:+: front ++ body line := ⟨ahead, tail, before.symm⟩
      exact within.trans (List.prefix_append _ _).isInfix
    · have within : word <:+: ending line ++ plain := later _ ⟨gap, back, behind.symm⟩
      exact within.trans (List.suffix_append _ _).isInfix

theorem with_usages_cons (names : Nat → List Text) (line : Bytes) (rest : List Bytes) :
    mine.withUsages names (line :: rest) =
      appendBeforeReturn ((names 0).flatMap mine.render) line ::
        mine.withUsages (fun index => names (index + 1)) rest := by
  rw [withUsages, List.mapIdx_cons]
  rfl

theorem infix_later_lines {word : Bytes} (free : semicolon ∉ word) (names : Nat → List Text)
    (barred : ∀ index, ∀ name ∈ names index, Bars (mine.render name) word) (lines : List Bytes)
    (front : Bytes)
    (found : word <:+: front ++ (mine.withUsages names lines).flatMap (newline :: ·)) :
    word <:+: front ++ lines.flatMap (newline :: ·) := by
  induction lines generalizing names front with
  | nil => exact found
  | cons line rest ih =>
      rw [with_usages_cons, List.flatMap_cons] at found
      rw [List.flatMap_cons]
      have later := ih (fun index => names (index + 1)) fun index => barred (index + 1)
      have within := infix_without_usages free (barred 0) later
        (show word <:+: (front ++ [newline]) ++ _ ++ _ by simpa using found)
      simpa using within

theorem infix_lines {word : Bytes} (free : semicolon ∉ word) (names : Nat → List Text)
    (barred : ∀ index, ∀ name ∈ names index, Bars (mine.render name) word) (lines : List Bytes)
    (found : word <:+: toCode (mine.withUsages names lines)) : word <:+: toCode lines := by
  cases lines with
  | nil => exact found
  | cons line rest =>
      rw [with_usages_cons, to_code_cons] at found
      rw [to_code_cons]
      have later := infix_later_lines free (fun index => names (index + 1))
        (fun index => barred (index + 1)) rest
      exact infix_without_usages free (barred 0) later (show word <:+: [] ++ _ ++ _ from found)

/-! Nothing new to remove. -/

theorem strip_eq_none (closingFree : newline ∉ other.closing) (code : Bytes) :
    other.strip code = none ↔ (∀ line ∈ ofCode code, ¬ other.Encloses line) ∧
      ∀ runs : Runs, ¬ runs.usage other <:+: code := by
  rw [strip_eq_none_iff, Pattern.delete_all_count_eq_zero other.appended_proper,
    Pattern.delete_all_count_eq_zero (own_line_proper other), appended_quiet_iff closingFree,
    own_line_quiet_iff]
  simp only [cut_eq_none_iff]

section

variable (word : mine.tool.WordChars) (otherWord : other.tool.WordChars)
  (distinct : mine.tool ≠ other.tool)

include word otherWord distinct

theorem not_encloses_with_usages {names : List Text} (named : ∀ name ∈ names, name.WordChars)
    {line : Bytes} (unclosed : ¬ other.Encloses line) :
    ¬ other.Encloses (appendBeforeReturn (names.flatMap mine.render) line) := by
  rintro ⟨before, inside, after, shape⟩
  by_cases unused : names = []
  · rw [unused, List.flatMap_nil, append_before_return_nil] at shape
    exact unclosed ⟨before, inside, after, shape⟩
  · have free : semicolon ∉ other.closing := closing_avoids otherWord (by decide) (by decide)
    have same : body line ++ names.flatMap mine.render ++ ending line =
        (before ++ opening ++ inside) ++ other.closing ++ after := by
      rw [← append_before_return_eq, shape]
      simp
    rcases beside_usages unused free (fun name member =>
      render_bars_closing word otherWord distinct (named name member)) same with
      ⟨tail, within⟩ | ⟨ahead, within⟩
    · apply unclosed
      have whole := body_append_ending line
      rw [within] at whole
      exact ⟨before, inside, tail ++ ending line, by simpa using whole.symm⟩
    · -- Behind the usages there is a carriage return at most.
      have held : slash ∈ ending line := by
        obtain ⟨front, slashed⟩ := closing_last other
        simp [within, slashed]
      rcases ending_cases line with empty | returned
      · simp [empty] at held
      · rw [returned] at held
        exact absurd held (by decide)

theorem other_clean_with_usages {code : Bytes} (clean : other.strip code = none)
    (names : Nat → List Text) (named : ∀ index, ∀ name ∈ names index, name.WordChars) :
    other.strip (toCode (mine.withUsages names (ofCode code))) = none := by
  have closingFree := closing_newline_free otherWord
  obtain ⟨unclosed, unused⟩ := (strip_eq_none closingFree code).mp clean
  apply (strip_eq_none closingFree _).mpr
  constructor
  · rw [of_code_to_code _ (by simp [withUsages, of_code_ne_nil])
      (with_usages_free names _ (of_code_newline_free code) fun index name member =>
        render_free word (named index name member))]
    intro line member
    obtain ⟨index, bounded, rfl⟩ := List.mem_mapIdx.mp member
    exact not_encloses_with_usages word otherWord distinct (named index)
      (unclosed _ (List.getElem_mem bounded))
  · intro runs found
    apply unused runs
    have barred : ∀ index, ∀ name ∈ names index, Bars (mine.render name) (runs.usage other) :=
      fun index name member => render_bars_usage word otherWord distinct (named index name member) runs
    have before := infix_lines (usage_semicolon_free otherWord runs) names barred _ found
    rwa [to_code_of_code] at before

end

end Marker

/-! What a toggle adds, whatever tools it has. -/

namespace Toggle

variable {State Cause : Type} {tools : Toolchain State Cause} {marker : Marker} {code result : Bytes}

theorem extract_words {state after : State} {findings : List Finding}
    (extracted : extract tools .unused code state = (.ok findings, after)) :
    ∀ finding ∈ findings, finding.name.WordChars := by
  simp only [extract] at extracted
  split at extracted
  · cases extracted
    simp
  · split at extracted
    · cases extracted
    · next report built _ =>
      split at extracted
      · cases extracted
        simp
      · next failed =>
        split at extracted
        · cases extracted
        · next read =>
          cases extracted
          intro finding member
          rw [← Kind.findings_ok read] at member
          obtain ⟨symbol, listed, rfl⟩ := List.mem_map.mp member
          apply report.symbol_word
          rwa [Report.symbols, if_neg failed]

/-- A toggle that adds usages and returns has appended usages of words to the lines of the code. -/
theorem add_appends {state : State} (returned : (add tools marker code state).1 = .ok result) :
    ∃ findings lines, (∀ finding ∈ findings, finding.name.WordChars) ∧
      appendUsages marker findings (ofCode code) = ⟨lines, none⟩ ∧ result = toCode lines := by
  simp only [add] at returned
  split at returned
  · cases returned
  · split at returned
    · cases returned
    · next commented hidden =>
      simp only [addUsages] at returned
      split at returned
      · cases returned
      · next unused after extracted =>
        split at returned
        · cases returned
        · next marked appended =>
          split at returned
          · cases returned
          · next restored uncommented =>
            cases returned
            exact ⟨unused, restored, extract_words extracted,
              append_usages_of_commented hidden appended uncommented, rfl⟩

end Toggle

namespace Marker

theorem other_clean_appended {mine other : Marker} (word : mine.tool.WordChars)
    (otherWord : other.tool.WordChars) (distinct : mine.tool ≠ other.tool) {code : Bytes}
    (clean : other.strip code = none) {findings : List Finding} {lines : List Bytes}
    (words : ∀ finding ∈ findings, finding.name.WordChars)
    (appended : appendUsages mine findings (ofCode code) = ⟨lines, none⟩) :
    other.strip (toCode lines) = none := by
  have inside : ∀ finding ∈ findings, Inside (ofCode code) finding.line := by
    simpa using apply_edits_inside_of_done appended
  rw [append_usages_of_inside mine findings _ inside] at appended
  cases appended
  apply other_clean_with_usages word otherWord distinct clean (namesOn findings)
  intro index name member
  obtain ⟨finding, named, rfl⟩ := List.mem_map.mp member
  exact words finding (List.mem_of_mem_filter named)

/-- Code in which a tool finds nothing to remove stays so when another tool adds usages to it. So a
toggle that adds usages for one tool never makes a later toggle for another tool remove anything: that
one goes on to add its own. -/
theorem other_tool_sees_nothing (mine other : Marker) (word : mine.tool.WordChars)
    (otherWord : other.tool.WordChars) (distinct : mine.tool ≠ other.tool) (code : Bytes)
    (clean : other.strip code = none) :
    (∀ findings : List Finding, (∀ finding ∈ findings, finding.name.WordChars) →
      (∀ finding ∈ findings, Inside (ofCode code) finding.line) →
        ∃ lines, appendUsages mine findings (ofCode code) = ⟨lines, none⟩ ∧
          other.strip (toCode lines) = none) ∧
    ∀ (State Cause : Type) (tools : Toolchain State Cause) (state : State) (result : Bytes),
      mine.strip code = none → (Toggle.run tools mine code state).1 = .ok result →
        other.strip result = none ∧
        ∀ (LaterState LaterCause : Type) (laterTools : Toolchain LaterState LaterCause)
          (later : LaterState),
          Toggle.run laterTools other result later = Toggle.add laterTools other result later := by
  constructor
  · intro findings words inside
    have appended := append_usages_of_inside mine findings _ inside
    exact ⟨_, appended, other_clean_appended word otherWord distinct clean words appended⟩
  · intro State Cause tools state result unused returned
    rw [Toggle.run, unused] at returned
    obtain ⟨findings, lines, words, appended, rfl⟩ := Toggle.add_appends returned
    have still := other_clean_appended word otherWord distinct clean words appended
    refine ⟨still, ?_⟩
    intro LaterState LaterCause laterTools later
    rw [Toggle.run, still]

/-- One tool is named like the beginning of the other, and a discard of the author's own stands right
behind the usages. -/
theorem other_tool_sees_nothing_beginning :
    let mine : Marker := ⟨['g', 'o', '_']⟩
    let other : Marker := ⟨['g', 'o']⟩
    let code := ascii "a\r\n_ = b /* TODO: go".toList
    let findings : List Finding := [⟨['_'], 0⟩, ⟨['v'], 0⟩, ⟨['w'], 1⟩]
    mine.tool ≠ other.tool ∧ other.strip code = none ∧
      ∃ lines, appendUsages mine findings (ofCode code) = ⟨lines, none⟩ ∧
        other.strip (toCode lines) = none := by
  intro mine other code findings
  have distinct : mine.tool ≠ other.tool := by decide
  have clean : other.strip code = none := by decide
  have unseen := other_tool_sees_nothing mine other (by decide) (by decide) distinct code clean
  exact ⟨distinct, clean, unseen.1 findings (by decide) (by decide)⟩

end Marker

end BlankUse
