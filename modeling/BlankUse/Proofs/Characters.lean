import BlankUse.Proofs.Decoding
import BlankUse.Proofs.Edits
import BlankUse.Text.CodePoint

/-!
The characters of a line of any bytes. The ranges of its bytes tell whether a sequence is well formed
and so spells a character. A character of a line is such a sequence, or a byte that no such sequence of
the line holds. Well-formed sequences never overlap, so a line has one cut into characters, and the
lossless reader finds it. Taking a comment mark off a line drops whole characters from its front, and
what is left is cut as it was before.
-/

namespace BlankUse.Utf8

/-- The sequences that spell one character. The narrowed ranges behind `E0`, `ED`, `F0` and `F4` keep
out overlong forms, surrogates and values above `10FFFF`. -/
inductive WellFormed : Bytes → Prop
  | one {byte : UInt8} (ascii : byte.toNat < 0x80) : WellFormed [byte]
  | two {lead tail : UInt8} (leads : 0xC2 ≤ lead.toNat ∧ lead.toNat < 0xE0) (tails : IsTail tail) :
      WellFormed [lead, tail]
  | three {lead middle tail : UInt8} (leads : 0xE0 ≤ lead.toNat ∧ lead.toNat < 0xF0)
      (long : lead.toNat = 0xE0 → 0xA0 ≤ middle.toNat)
      (single : lead.toNat = 0xED → middle.toNat ≤ 0x9F)
      (middles : IsTail middle) (tails : IsTail tail) : WellFormed [lead, middle, tail]
  | four {lead second third tail : UInt8} (leads : 0xF0 ≤ lead.toNat ∧ lead.toNat ≤ 0xF4)
      (long : lead.toNat = 0xF0 → 0x90 ≤ second.toNat)
      (bounded : lead.toNat = 0xF4 → second.toNat ≤ 0x8F)
      (seconds : IsTail second) (thirds : IsTail third) (tails : IsTail tail) :
      WellFormed [lead, second, third, tail]

theorem encode_char_well_formed (c : Char) : WellFormed (encodeChar c) := by
  obtain ⟨bounded, unpaired⟩ := to_nat_lt c
  simp only [encodeChar]
  split_ifs with one two three
  · have value := to_uint8_to_nat (show c.toNat < 256 by omega)
    exact .one (by omega)
  · have lead := to_uint8_to_nat (show 0xC0 + c.toNat / 64 < 256 by omega)
    have tail := to_uint8_to_nat (show 0x80 + c.toNat % 64 < 256 by omega)
    exact .two (by omega) ⟨by omega, by omega⟩
  · have lead := to_uint8_to_nat (show 0xE0 + c.toNat / 4096 < 256 by omega)
    have middle := to_uint8_to_nat (show 0x80 + c.toNat / 64 % 64 < 256 by omega)
    have tail := to_uint8_to_nat (show 0x80 + c.toNat % 64 < 256 by omega)
    exact .three (by omega) (by omega) (by omega) ⟨by omega, by omega⟩ ⟨by omega, by omega⟩
  · have lead := to_uint8_to_nat (show 0xF0 + c.toNat / 262144 < 256 by omega)
    have second := to_uint8_to_nat (show 0x80 + c.toNat / 4096 % 64 < 256 by omega)
    have third := to_uint8_to_nat (show 0x80 + c.toNat / 64 % 64 < 256 by omega)
    have tail := to_uint8_to_nat (show 0x80 + c.toNat % 64 < 256 by omega)
    exact .four (by omega) (by omega) (by omega) ⟨by omega, by omega⟩ ⟨by omega, by omega⟩
      ⟨by omega, by omega⟩

theorem WellFormed.encoded {bytes : Bytes} (well : WellFormed bytes) :
    ∃ c, bytes = encodeChar c := by
  cases well with
  | one ascii => exact ⟨_, (encode_ascii _ ascii).symm⟩
  | two leads tails => exact ⟨_, (encode_two _ _ leads tails).symm⟩
  | three leads long single middles tails =>
      exact ⟨_, (encode_three _ _ _ leads long single middles tails).symm⟩
  | four leads long bounded seconds thirds tails =>
      exact ⟨_, (encode_four _ _ _ _ leads long bounded seconds thirds tails).symm⟩

theorem WellFormed.shape {bytes : Bytes} (well : WellFormed bytes) :
    ∃ lead tails, bytes = lead :: tails ∧ ¬ IsTail lead ∧ ∀ byte ∈ tails, IsTail byte := by
  cases well with
  | one ascii => exact ⟨_, [], rfl, ascii_not_tail ascii, by simp⟩
  | two leads tails => exact ⟨_, _, rfl, fun tail => absurd tail.2 (by omega), by simp [tails]⟩
  | three leads long single middles tails =>
      exact ⟨_, _, rfl, fun tail => absurd tail.2 (by omega), by simp [middles, tails]⟩
  | four leads long bounded seconds thirds tails =>
      exact ⟨_, _, rfl, fun tail => absurd tail.2 (by omega), by simp [seconds, thirds, tails]⟩

/-- A character is read wherever it stands, and both sides of it are read on their own. -/
theorem glyphs_char (front : Bytes) (c : Char) (back : Bytes) :
    glyphs (front ++ encodeChar c ++ back) = glyphs front ++ .scalar c :: glyphs back := by
  obtain ⟨lead, tails, spelled, fresh, -⟩ := (encode_char_well_formed c).shape
  have read := pieces_encode [c] back
  rw [encode, List.flatMap_singleton, spelled] at read
  have cut := pieces_fresh front (tails ++ back) fresh
  rw [← List.cons_append, read] at cut
  rw [glyphs, List.append_assoc, spelled, cut]
  simp [glyphs, Piece.glyphs]

theorem WellFormed.eq_of_append {first second later : Bytes} (well : WellFormed first)
    (longer : WellFormed second) {rest : Bytes} (same : first ++ rest = second ++ later) :
    first = second := by
  obtain ⟨c, rfl⟩ := well.encoded
  obtain ⟨other, rfl⟩ := longer.encoded
  have read := congrArg glyphs same
  rw [← List.nil_append (encodeChar c), glyphs_char, ← List.nil_append (encodeChar other),
    glyphs_char] at read
  have equal : Glyph.scalar c = .scalar other := (List.cons.inj read).1
  rw [Glyph.scalar.inj equal]

/-- No well-formed sequence is part of a longer one. -/
theorem WellFormed.maximal {piece left right : Bytes} (well : WellFormed piece)
    (longer : WellFormed (left ++ piece ++ right)) : left = [] ∧ right = [] := by
  have begins : left = [] := by
    obtain ⟨lead, tails, rfl, fresh, -⟩ := well.shape
    obtain ⟨first, others, spelled, -, tailed⟩ := longer.shape
    cases left with
    | nil => rfl
    | cons byte left =>
        have inside : lead ∈ others := by
          rw [← (List.cons.inj spelled).2]
          simp
        exact absurd (tailed lead inside) fresh
  subst begins
  have joined : piece ++ right = [] ++ piece ++ right ++ [] := by simp
  have same : piece = [] ++ piece ++ right := well.eq_of_append longer joined
  exact ⟨rfl, by simpa using same⟩

/-! A byte that is read as stray belongs to no well-formed sequence of its line. -/

theorem Glyph.bytes_ne_nil (glyph : Glyph) : glyph.bytes ≠ [] := by
  cases glyph with
  | scalar c =>
      obtain ⟨lead, tails, spelled, -⟩ := (encode_char_well_formed c).shape
      simp [Glyph.bytes, spelled]
  | stray byte => simp [Glyph.bytes]

theorem of_glyphs_append (front back : List Glyph) :
    ofGlyphs (front ++ back) = ofGlyphs front ++ ofGlyphs back :=
  List.flatMap_append

theorem of_glyphs_cons (glyph : Glyph) (rest : List Glyph) :
    ofGlyphs (glyph :: rest) = glyph.bytes ++ ofGlyphs rest :=
  List.flatMap_cons

/-- Two glyphs of one line are the same if one of them begins within the other. -/
theorem glyph_eq_of_within {front back before after : List Glyph} {glyph other : Glyph}
    (same : front ++ glyph :: back = before ++ other :: after)
    (least : (ofGlyphs before).length ≤ (ofGlyphs front).length)
    (most : (ofGlyphs front).length < (ofGlyphs before).length + other.bytes.length) :
    glyph = other := by
  have some : 0 < glyph.bytes.length := List.length_pos_iff.mpr glyph.bytes_ne_nil
  rcases List.append_eq_append_iff.mp same with ⟨between, rfl, rest⟩ | ⟨between, rfl, rest⟩
  · cases between with
    | nil => exact (List.cons.inj rest).1
    | cons head between =>
        obtain ⟨rfl, -⟩ := List.cons.inj rest
        rw [of_glyphs_append, of_glyphs_cons] at least
        simp only [List.length_append] at least
        omega
  · cases between with
    | nil => exact (List.cons.inj rest).1.symm
    | cons head between =>
        obtain ⟨rfl, -⟩ := List.cons.inj rest
        rw [of_glyphs_append, of_glyphs_cons] at most
        simp only [List.length_append] at most
        omega

theorem stray_lone {line : Bytes} {before after : List Glyph} {byte : UInt8}
    (read : glyphs line = before ++ .stray byte :: after) {left right : Bytes}
    (leftward : left <:+ ofGlyphs before) (rightward : right <+: ofGlyphs after) :
    ¬ WellFormed (left ++ byte :: right) := by
  intro well
  obtain ⟨c, spelled⟩ := well.encoded
  obtain ⟨front, fronts⟩ := leftward
  obtain ⟨back, backs⟩ := rightward
  have whole : line = front ++ encodeChar c ++ back := by
    rw [← of_glyphs_glyphs line, read, of_glyphs_append, of_glyphs_cons, ← fronts, ← backs, ← spelled]
    simp [Glyph.bytes]
  have places : (ofGlyphs before).length = front.length + left.length := by
    rw [← fronts, List.length_append]
  have length : (encodeChar c).length = left.length + (right.length + 1) := by
    rw [← spelled, List.length_append, List.length_cons]
  have same : Glyph.stray byte = .scalar c := by
    rw [whole, glyphs_char] at read
    apply glyph_eq_of_within read.symm
    · rw [of_glyphs_glyphs]
      omega
    · rw [of_glyphs_glyphs, Glyph.bytes]
      omega
  cases same

theorem stray_high {line : Bytes} {byte : UInt8} (stray : .stray byte ∈ glyphs line) :
    0x80 ≤ byte.toNat := by
  obtain ⟨before, after, read⟩ := List.append_of_mem stray
  by_contra small
  have ascii : WellFormed ([] ++ byte :: []) := .one (by omega)
  exact stray_lone read List.nil_suffix List.nil_prefix ascii

/-! The one cut of a line into characters. -/

/-- A piece of a line is a character: a well-formed sequence that is no part of a longer one, or a byte
that is no part of any. What counts is what stands in front of the piece and behind it. -/
inductive IsCharacter (front : Bytes) : Bytes → Bytes → Prop
  | sequence {piece back : Bytes} (well : WellFormed piece)
      (maximal : ∀ left right, left <:+ front → right <+: back →
        WellFormed (left ++ piece ++ right) → left = [] ∧ right = []) :
      IsCharacter front piece back
  | stray {byte : UInt8} {back : Bytes}
      (lone : ∀ left right, left <:+ front → right <+: back → ¬ WellFormed (left ++ byte :: right)) :
      IsCharacter front [byte] back

structure Cut (line : Bytes) (pieces : List Bytes) : Prop where
  whole : pieces.flatten = line
  each : ∀ before piece after, pieces = before ++ piece :: after →
    IsCharacter before.flatten piece after.flatten

def characters (line : Bytes) : List Bytes := (glyphs line).map Glyph.bytes

theorem of_glyphs_eq (line : List Glyph) : (line.map Glyph.bytes).flatten = ofGlyphs line := by
  rw [ofGlyphs, List.flatMap_def]

theorem characters_cut (line : Bytes) : Cut line (characters line) := by
  constructor
  · rw [characters, of_glyphs_eq, of_glyphs_glyphs]
  · intro before piece after split
    obtain ⟨front, rest, read, rfl, others⟩ := List.map_eq_append_iff.mp split
    obtain ⟨glyph, back, rfl, rfl, rfl⟩ := List.map_eq_cons_iff.mp others
    rw [of_glyphs_eq, of_glyphs_eq]
    cases glyph with
    | scalar c =>
        have well := encode_char_well_formed c
        exact .sequence well fun left right _ _ longer => well.maximal longer
    | stray byte =>
        exact .stray fun left right leftward rightward => stray_lone read leftward rightward

section

variable {front back line : Bytes} {piece other : Bytes} {pieces others : List Bytes}

theorem IsCharacter.ne_nil (character : IsCharacter front piece back) : piece ≠ [] := by
  cases character with
  | sequence well maximal =>
      obtain ⟨lead, tails, rfl, -⟩ := well.shape
      simp
  | stray lone => simp

theorem IsCharacter.of_suffix {shorter : Bytes} (character : IsCharacter front piece back)
    (suffix : shorter <:+ front) : IsCharacter shorter piece back := by
  cases character with
  | sequence well maximal =>
      exact .sequence well fun left right leftward => maximal left right (leftward.trans suffix)
  | stray lone => exact .stray fun left right leftward => lone left right (leftward.trans suffix)

theorem WellFormed.not_lone {byte : UInt8} {rest : Bytes} (well : WellFormed piece)
    (same : piece ++ back = byte :: rest)
    (lone : ∀ left right, left <:+ [] → right <+: rest → ¬ WellFormed (left ++ byte :: right)) :
    False := by
  obtain ⟨lead, tails, rfl, -⟩ := well.shape
  obtain ⟨rfl, rfl⟩ := List.cons.inj same
  exact lone [] tails List.suffix_rfl (List.prefix_append tails back) well

theorem IsCharacter.unique {later : Bytes} (character : IsCharacter [] piece back)
    (rival : IsCharacter [] other later) (same : piece ++ back = other ++ later) :
    piece = other := by
  cases character with
  | sequence well =>
      cases rival with
      | sequence longer => exact well.eq_of_append longer same
      | stray lone => exact (well.not_lone same lone).elim
  | stray lone =>
      cases rival with
      | sequence longer => exact (longer.not_lone same.symm lone).elim
      | stray => rw [(List.cons.inj same).1]

theorem Cut.tail (cut : Cut line (piece :: pieces)) : Cut pieces.flatten pieces := by
  refine ⟨rfl, ?_⟩
  intro before character after split
  have found := cut.each (piece :: before) character after (by rw [split, List.cons_append])
  exact found.of_suffix (by simp)

theorem Cut.drop (cut : Cut line pieces) (count : Nat) :
    Cut (pieces.drop count).flatten (pieces.drop count) := by
  induction count generalizing line pieces with
  | zero => exact cut.whole ▸ cut
  | succ count ih =>
      cases pieces with
      | nil => exact cut.whole ▸ cut
      | cons piece pieces => exact ih cut.tail

theorem Cut.of_nil (cut : Cut [] pieces) : pieces = [] := by
  cases pieces with
  | nil => rfl
  | cons piece pieces =>
      have first := (cut.each [] piece pieces rfl).ne_nil
      have empty := cut.whole
      simp [first] at empty

theorem Cut.unique (cut : Cut line pieces) (rival : Cut line others) : pieces = others := by
  induction pieces generalizing line others with
  | nil =>
      obtain rfl : [] = line := cut.whole
      exact rival.of_nil.symm
  | cons piece pieces ih =>
      cases others with
      | nil =>
          obtain rfl : [] = line := rival.whole
          exact cut.of_nil
      | cons other others =>
          have same : piece ++ pieces.flatten = other ++ others.flatten :=
            cut.whole.trans rival.whole.symm
          obtain rfl : piece = other :=
            (cut.each [] piece pieces rfl).unique (rival.each [] other others rfl) same
          have rest : pieces.flatten = others.flatten := List.append_cancel_left same
          rw [ih cut.tail (rest ▸ rival.tail)]

end

theorem cut_iff (line : Bytes) (pieces : List Bytes) : Cut line pieces ↔ pieces = characters line :=
  ⟨fun cut => cut.unique (characters_cut line), fun same => same ▸ characters_cut line⟩

theorem characters_drop (line : Bytes) (count : Nat) :
    characters ((characters line).drop count).flatten = (characters line).drop count :=
  ((characters_cut line).drop count).unique (characters_cut _) |>.symm

/-! Bytes as a string of code points. -/

/-- A stray byte stands as half of a surrogate pair, one of those from `DC80` up to `DCFF`. -/
def Glyph.point : Glyph → CodePoint
  | .scalar c => .char c
  | .stray byte => .surrogate (0xDC00 + byte.toNat)

def readEscaped (bytes : Bytes) : Points := (glyphs bytes).map Glyph.point

def pointBytes? : CodePoint → Option Bytes
  | .char c => some (encodeChar c)
  | .surrogate code =>
    if 0xDC80 ≤ code ∧ code ≤ 0xDCFF then some [(code - 0xDC00).toUInt8] else none

def writeEscaped? (points : Points) : Option Bytes := (points.mapM pointBytes?).map List.flatten

theorem point_bytes_stray {byte : UInt8} (high : 0x80 ≤ byte.toNat) :
    pointBytes? (Glyph.stray byte).point = some (Glyph.stray byte).bytes := by
  have bound := byte.toNat_lt
  have range : 0xDC80 ≤ 0xDC00 + byte.toNat ∧ 0xDC00 + byte.toNat ≤ 0xDCFF := by omega
  simp only [Glyph.point, pointBytes?, if_pos range, Glyph.bytes]
  simp

theorem write_points {line : List Glyph} (high : ∀ byte, .stray byte ∈ line → 0x80 ≤ byte.toNat) :
    writeEscaped? (line.map Glyph.point) = some (line.map Glyph.bytes).flatten := by
  have written : (line.map Glyph.point).mapM pointBytes? = some (line.map Glyph.bytes) := by
    induction line with
    | nil => rfl
    | cons glyph rest ih =>
        have each : pointBytes? glyph.point = some glyph.bytes := by
          cases glyph with
          | scalar c => rfl
          | stray byte => exact point_bytes_stray (high byte (by simp))
        have later := ih fun byte member => high byte (by simp [member])
        simp [List.mapM_cons, each, later]
  rw [writeEscaped?, written]
  rfl

theorem write_escaped_read (line : Bytes) (count : Nat) :
    writeEscaped? ((readEscaped line).drop count) =
      some ((characters line).drop count).flatten := by
  rw [readEscaped, characters, ← List.map_drop, ← List.map_drop]
  apply write_points
  intro byte member
  exact stray_high (List.mem_of_mem_drop member)

end BlankUse.Utf8

namespace BlankUse.LineBuffer

open Utf8

theorem drop_comment_eq (line : Bytes) : dropComment line = ((characters line).drop 3).flatten := by
  rw [characters, ← List.map_drop, of_glyphs_eq]
  rfl

theorem uncomment_one (front : List Bytes) (line : Bytes) (back : List Bytes) :
    uncomment [(front.length : Int)] (front ++ line :: back) =
      ⟨front ++ dropComment line :: back, none⟩ := by
  have bound : front.length < (front ++ line :: back).length := by simp
  have inside : Inside (front ++ line :: back) front.length := by
    rw [Inside]
    omega
  simp only [uncomment, List.map_cons, List.map_nil, applyEdits, if_pos inside, Int.toNat_natCast]
  rw [List.modify_eq_take_cons_drop bound]
  simp

/-- A line of any bytes is cut into characters in one way. Taking a comment mark off never fails: it
takes the first three characters off the line, or all if there are fewer, and leaves the rest byte for
byte, with its characters and among the same other lines. It is the same as reading the line as a string
of code points, dropping three of them and writing the others, and whatever number of them is dropped,
the others can be written and give the bytes they were read from. -/
theorem uncomment_drops_characters (front : List Bytes) (line : Bytes) (back : List Bytes) :
    (∀ pieces, Cut line pieces ↔ pieces = characters line) ∧
    (let head := ((characters line).take 3).flatten
      let tail := ((characters line).drop 3).flatten
      uncomment [(front.length : Int)] (front ++ line :: back) = ⟨front ++ tail :: back, none⟩ ∧
      line = head ++ tail ∧
      characters tail = (characters line).drop 3 ∧
      writeEscaped? ((readEscaped line).drop 3) = some tail) ∧
    writeEscaped? (readEscaped line) = some line ∧
    ∀ count, writeEscaped? ((readEscaped line).drop count) =
      some ((characters line).drop count).flatten := by
  have whole := (characters_cut line).whole
  refine ⟨cut_iff line, ⟨?_, ?_, characters_drop line 3, write_escaped_read line 3⟩, ?_,
    write_escaped_read line⟩
  · rw [uncomment_one, drop_comment_eq]
  · rw [← List.flatten_append, List.take_append_drop, whole]
  · simpa [whole] using write_escaped_read line 0

/-- A character that is cut off, a whole one of four bytes, an encoded surrogate and a letter. -/
theorem uncomment_drops_characters_broken :
    let line : Bytes := [0xE2, 0x82, 0xF0, 0x9F, 0x98, 0x80, 0xED, 0xA0, 0x80, 0x41]
    Cut line [[0xE2], [0x82], [0xF0, 0x9F, 0x98, 0x80], [0xED], [0xA0], [0x80], [0x41]] ∧
      uncomment [1] [[], line, [0x42]] = ⟨[[], [0xED, 0xA0, 0x80, 0x41], [0x42]], none⟩ ∧
      writeEscaped? ([.surrogate 0xDCED, .surrogate 0xDCA0, .surrogate 0xDC80, .char 'A']) =
        some [0xED, 0xA0, 0x80, 0x41] := by
  intro line
  obtain ⟨cut, ⟨dropped, -, -, written⟩, -⟩ := uncomment_drops_characters [[]] line [[0x42]]
  exact ⟨(cut _).mpr (by decide), dropped, written⟩

end BlankUse.LineBuffer
