import BlankUse.Proofs.Grammar

/-!
Messages about unused variables as a compiler writes them. The path in front may be anything that
does not mention a source file by itself: the mark `.go:` holds its dot in front only, so it cannot
begin inside the path and end behind it. Behind the mark there is no other dot, so the message is
recognised at one place, in one wording, and its fields are what was written.
-/

namespace BlankUse

open Diagnostic

/-! Numerals. -/

structure Numeral where
  digits : Text
  filled : digits ≠ []
  decimal : ∀ c ∈ digits, c.isDigit = true

namespace Numeral

def value (numeral : Numeral) : Nat := Nat.ofDigitChars 10 numeral.digits 0

def ofNat (number : Nat) : Numeral where
  digits := Nat.toDigits 10 number
  filled := Nat.toDigits_ne_nil
  decimal := fun _ member => Nat.isDigit_of_mem_toDigits (by decide) (by decide) member

theorem value_of_nat (number : Nat) : (ofNat number).value = number :=
  Nat.ofDigitChars_toDigits (by decide) (by decide)

end Numeral

section

variable {c : Char} (decimal : c.isDigit = true)

include decimal

theorem decimal_range : 0x30 ≤ c.toNat ∧ c.toNat ≤ 0x39 := Char.isDigit_iff_toNat.mp decimal

theorem digit_of_decimal : Text.digit? c = some (c.toNat - '0'.toNat) := by
  have range := decimal_range decimal
  rw [Text.digit?, Text.zeros, List.findSome?_cons, if_pos (by omega)]
  rfl

theorem is_digit_of_decimal : Text.isDigit c = true := by
  rw [Text.isDigit, digit_of_decimal decimal]
  rfl

theorem ne_of_decimal {other : Char} (foreign : other.isDigit = false) : c ≠ other := by
  intro same
  rw [same, foreign] at decimal
  cases decimal

theorem is_word_of_decimal : Text.isWord c = true := by
  have range := decimal_range decimal
  have small : Text.isAscii c = true := by
    simp only [Text.isAscii, decide_eq_true_eq]
    omega
  simp [Text.isWord, small, Text.isAsciiWord, Char.isAlphanum, decimal]

theorem is_field_of_decimal : isFieldChar c = true := by
  have range := decimal_range decimal
  have colon : c ≠ ':' := ne_of_decimal decimal (by decide)
  have solid : Text.isBlank c = false := by
    simp [Text.isBlank, Text.isWhite, Text.inRanges]
    omega
  simp [isFieldChar, colon, solid]

end

theorem digits_loop_decimal {text : Text} (decimal : ∀ c ∈ text, c.isDigit = true)
    (done : List Nat) (afterDigit : Bool) (filled : text ≠ [] ∨ afterDigit = true) :
    Text.digitsLoop Text.digit? done afterDigit text =
      some (done.reverse ++ text.map fun c => c.toNat - '0'.toNat) := by
  induction text generalizing done afterDigit with
  | nil =>
      have after : afterDigit = true := by simpa using filled
      simp [Text.digitsLoop, after]
  | cons c rest ih =>
      have here := decimal c (by simp)
      have low : c ≠ '_' := ne_of_decimal here (by decide)
      rw [Text.digitsLoop, if_neg (by simpa using low), digit_of_decimal here]
      dsimp only
      rw [ih (fun other member => decimal other (by simp [member])) _ _ (Or.inr rfl)]
      simp

theorem fold_decimal (text : Text) (start : Nat) :
    (text.map fun c => c.toNat - '0'.toNat).foldl (fun value digit => value * 10 + digit) start =
      Nat.ofDigitChars 10 text start := by
  induction text generalizing start with
  | nil => rfl
  | cons c rest ih => rw [List.map_cons, List.foldl_cons, ih, Nat.ofDigitChars_cons, Nat.mul_comm]

theorem signed_decimal {text : Text} (decimal : ∀ c ∈ text, c.isDigit = true) :
    Text.signed text = (false, text) := by
  cases text with
  | nil => rfl
  | cons c rest =>
      have minus : c ≠ '-' := ne_of_decimal (decimal c (by simp)) (by decide)
      have plus : c ≠ '+' := ne_of_decimal (decimal c (by simp)) (by decide)
      simp [Text.signed, minus, plus]

theorem Numeral.integer_digits (numeral : Numeral) (short : numeral.digits.length ≤ 4300) :
    Text.integer? numeral.digits = some (numeral.value : Int) := by
  have spelled := digits_loop_decimal numeral.decimal [] false (Or.inl numeral.filled)
  rw [List.reverse_nil, List.nil_append] at spelled
  simp only [Text.integer?, signed_decimal numeral.decimal, Text.digits?, spelled]
  rw [if_pos (by simpa [Text.digitLimit] using short), Text.valueOf, fold_decimal]
  rfl

/-! Messages. -/

inductive Phrasing where
  | before
  | afterAnd
  | afterBut
  deriving DecidableEq, Repr

def Phrasing.render (name : Text) : Phrasing → Text
  | before => "declared and not used: ".toList ++ name
  | afterAnd => name ++ " declared and not used".toList
  | afterBut => name ++ " declared but not used".toList

/-- A message about an unused variable from the mark of its source file on. -/
structure Message where
  line : Numeral
  column : Numeral
  phrasing : Phrasing
  name : Text
  positive : 1 ≤ line.value
  short : line.digits.length ≤ 4300
  named : name ≠ []
  word : ∀ c ∈ name, Text.isWord c = true

namespace Message

variable (message : Message)

def complaint : Text := message.phrasing.render message.name

def render : Text :=
  ['.', 'g', 'o', ':'] ++ message.line.digits ++ [':'] ++ message.column.digits ++ [':', ' '] ++
    message.complaint

def finding : Finding := ⟨message.name, (message.line.value : Int) - 1⟩

end Message

theorem Message.position_render (message : Message) :
    position? message.render =
      some (message.line.digits, message.column.digits, message.complaint) := by
  apply position_eq_some.mpr
  refine ⟨?_, ⟨message.line.filled, ?_⟩, message.column.filled, ?_⟩
  · simp [Message.render, extension]
  · intro c member
    exact is_field_of_decimal (message.line.decimal c member)
  · intro c member
    exact is_digit_of_decimal (message.column.decimal c member)

/-! Wordings. -/

section

variable {name phrase : Text} (word : ∀ c ∈ name, Text.isWord c = true)

include word

theorem read_before (named : name ≠ []) :
    ∃ width, Wording.unusedBefore.read? (unusedPhrase ++ name) = some ⟨name, width⟩ := by
  have ran : run? Text.isWord (name ++ []) = some (name, []) :=
    run_of_members named word (by simp)
  rw [List.append_nil] at ran
  refine ⟨unusedPhrase.length + name.length, ?_⟩
  simp only [Wording.read?, phraseThenName, is_prefix_append, ran, Option.bind_eq_bind,
    Option.bind_some]
  rfl

/-- A name with a phrase behind it does not begin with the phrase that goes in front of names, even
if it is the first word of that phrase. -/
theorem read_before_none (told : phrase = andPhrase ∨ phrase = butPhrase) :
    Wording.unusedBefore.read? (name ++ phrase) = none := by
  obtain ⟨behind, spaced⟩ : ∃ behind, phrase = ' ' :: 'd' :: behind := by
    rcases told with rfl | rfl
    · exact ⟨_, rfl⟩
    · exact ⟨_, rfl⟩
  have refused : unusedPhrase.isPrefixOf? (name ++ phrase) = none := by
    apply Option.eq_none_iff_forall_ne_some.mpr
    intro rest starts
    have whole : unusedPhrase ++ rest = name ++ phrase :=
      List.isPrefixOf?_eq_some_iff_append_eq.mp starts
    have parted : unusedPhrase = "declared".toList ++ ' ' :: 'a' :: "nd not used: ".toList := by
      decide
    have shape : "declared".toList ++ ' ' :: 'a' :: ("nd not used: ".toList ++ rest) =
        name ++ ' ' :: 'd' :: behind := by
      rw [← spaced, ← whole, parted, List.append_assoc]
      rfl
    have declared : ∀ c ∈ "declared".toList, Text.isWord c = true :=
      List.all_eq_true.mp (by decide)
    have phrases := (same_runs Text.isWord shape declared word (by simp; decide)
      (by simp; decide)).2
    simp at phrases
  rw [Wording.read?, phraseThenName, refused]
  rfl

theorem first_reading_after (named : name ≠ []) (told : phrase = andPhrase ∨ phrase = butPhrase) :
    ∃ width, Kind.unused.wordings.findSome? (·.read? (name ++ phrase)) =
      some ⟨name, width⟩ := by
  have read := read_after_phrase named word told []
  rw [List.append_nil] at read
  refine ⟨name.length + phrase.length, ?_⟩
  rw [Kind.wordings, List.findSome?_cons, read_before_none word told, List.findSome?_cons, read]

end

/-! Searching. -/

theorem match_none_of_prefix {wording : Wording} {offset : Nat} {text : Text}
    (absent : ¬ extension <+: text) : matchAt? wording offset text = none := by
  have refused : extension.isPrefixOf? text = none := by
    apply Option.eq_none_iff_forall_ne_some.mpr
    intro rest starts
    exact absent ⟨rest, List.isPrefixOf?_eq_some_iff_append_eq.mp starts⟩
  rw [matchAt?, position?, refused]
  rfl

theorem search_none (wording : Wording) (offset : Nat) {text : Text}
    (absent : ¬ extension <:+: text) : search? wording offset text = none := by
  apply (search_none_iff wording offset text).mpr
  refine ⟨fun reading => absent ?_⟩
  exact ⟨reading.before, _, by rw [List.append_assoc]; exact reading.shape.symm⟩

theorem extension_not_across {front text : Text} (filled : front ≠ [])
    (absent : ¬ extension <:+: front) : ¬ extension <+: front ++ '.' :: text := by
  intro starts
  match front, filled with
  | [c], _ => simp [extension] at starts
  | [c, d], _ => simp [extension] at starts
  | [c, d, e], _ => simp [extension] at starts
  | c :: d :: e :: f :: rest, _ =>
      apply absent
      apply List.IsPrefix.isInfix
      simpa [extension] using starts

/-- A mark of a source file does not begin in text that holds none and end behind its dot. -/
theorem search_skip (wording : Wording) (offset : Nat) {front text : Text}
    (absent : ¬ extension <:+: front) :
    search? wording offset (front ++ '.' :: text) =
      search? wording (offset + front.length) ('.' :: text) := by
  induction front generalizing offset with
  | nil => rfl
  | cons c rest ih =>
      have here : ¬ extension <+: c :: (rest ++ '.' :: text) :=
        extension_not_across (List.cons_ne_nil c rest) absent
      rw [List.infix_cons_iff, not_or] at absent
      rw [List.cons_append, search?, match_none_of_prefix here]
      dsimp only
      rw [ih _ absent.2, List.length_cons, Nat.add_assoc, Nat.add_comm 1]

/-! A written message is recognised. -/

namespace Message

variable (message : Message)

/-- The characters of a message behind the dot of its mark. -/
def isMessageChar (c : Char) : Bool := Text.isWord c || c == ':' || c == ' '

theorem complaint_chars : message.complaint.all isMessageChar = true := by
  have spelled : message.name.all isMessageChar = true := by
    rw [List.all_eq_true]
    intro c member
    simp [isMessageChar, message.word c member]
  have joined : ∀ {front back : Text}, front.all isMessageChar = true →
      back.all isMessageChar = true → (front ++ back).all isMessageChar = true := by
    intro front back first second
    rw [List.all_append, first, second]
    rfl
  have fixed : (unusedPhrase ++ andPhrase ++ butPhrase).all isMessageChar = true := by decide
  simp only [List.all_append, Bool.and_eq_true] at fixed
  rw [complaint]
  cases message.phrasing with
  | before => exact joined fixed.1.1 spelled
  | afterAnd => exact joined spelled fixed.1.2
  | afterBut => exact joined spelled fixed.2

theorem render_chars : ∃ rest, message.render = '.' :: rest ∧ rest.all isMessageChar = true := by
  have digits : ∀ numeral : Numeral, numeral.digits.all isMessageChar = true := by
    intro numeral
    rw [List.all_eq_true]
    intro c member
    simp [isMessageChar, is_word_of_decimal (numeral.decimal c member)]
  refine ⟨['g', 'o', ':'] ++ message.line.digits ++ [':'] ++ message.column.digits ++ [':', ' '] ++
    message.complaint, rfl, ?_⟩
  simp only [List.all_append, digits, complaint_chars, Bool.and_true]
  decide

theorem render_free {c : Char} (ends : c = '\n' ∨ c = '\r') : c ∉ message.render := by
  obtain ⟨rest, shape, chars⟩ := message.render_chars
  intro inside
  rw [shape] at inside
  rcases List.mem_cons.mp inside with rfl | later
  · simp at ends
  · have told := List.all_eq_true.mp chars c later
    rcases ends with rfl | rfl
    · exact absurd told (by decide)
    · exact absurd told (by decide)

theorem search_render (wording : Wording) {front : Text} (absent : ¬ extension <:+: front) :
    search? wording 0 (front ++ message.render) =
      matchAt? wording front.length message.render := by
  obtain ⟨rest, shape, chars⟩ := message.render_chars
  have silent : ¬ extension <:+: rest := by
    intro inside
    have dotted : '.' ∈ rest := inside.subset (by decide)
    exact absurd (List.all_eq_true.mp chars '.' dotted) (by decide)
  rw [shape, search_skip wording 0 absent, Nat.zero_add, search?, search_none _ _ silent]
  cases matchAt? wording front.length ('.' :: rest) <;> rfl

def found (offset : Nat) (complaint : Complaint) : Match :=
  ⟨message.line.digits, message.column.digits, complaint.name, offset,
    offset + extension.length + message.line.digits.length + 1 + message.column.digits.length + 2 +
      complaint.width⟩

theorem match_render (wording : Wording) (offset : Nat) :
    matchAt? wording offset message.render =
      (wording.read? message.complaint).map (message.found offset) := by
  exact match_of_position message.position_render wording offset

theorem first_reading :
    ∃ width, Kind.unused.wordings.findSome? (·.read? message.complaint) =
      some ⟨message.name, width⟩ := by
  rw [complaint]
  cases message.phrasing with
  | before =>
      obtain ⟨width, read⟩ := read_before message.word message.named
      refine ⟨width, ?_⟩
      rw [Kind.wordings, List.findSome?_cons]
      rw [show Phrasing.before.render message.name = unusedPhrase ++ message.name from rfl, read]
  | afterAnd => exact first_reading_after message.word message.named (Or.inl rfl)
  | afterBut => exact first_reading_after message.word message.named (Or.inr rfl)

theorem match_line {front : Text} (absent : ¬ extension <:+: front) :
    ∃ width, Kind.unused.match? (front ++ message.render) =
      some (message.found front.length ⟨message.name, width⟩) := by
  obtain ⟨width, read⟩ := message.first_reading
  have each : (fun wording => search? wording 0 (front ++ message.render)) =
      Option.map (message.found front.length) ∘ fun wording => wording.read? message.complaint := by
    funext wording
    rw [message.search_render wording absent, message.match_render]
    rfl
  refine ⟨width, ?_⟩
  rw [Kind.match?, each, ← List.map_findSome?, read]
  rfl

/-- A message behind text without a mark of its own is found, with its name and its line. -/
theorem finding_render {front : Text} (absent : ¬ extension <:+: front) :
    Kind.unused.finding? (front ++ message.render) = .ok (some message.finding) := by
  obtain ⟨width, matched⟩ := message.match_line absent
  have positive : ¬ (message.line.value : Int) < 1 := by
    have least := message.positive
    omega
  have number := message.line.integer_digits message.short
  simp only [Kind.finding?, matched, found, number, if_neg positive]
  rfl

end Message

theorem finding_silent {line : Text} (absent : ¬ extension <:+: line) :
    Kind.unused.finding? line = .ok none := by
  have unmatched : Kind.unused.match? line = none := by
    rw [Kind.match?, List.findSome?_eq_none_iff]
    intro wording _
    exact search_none wording 0 absent
  rw [Kind.finding?, unmatched]

end BlankUse
