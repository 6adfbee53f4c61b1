import BlankUse.LineBuffer
import Mathlib.Data.List.Basic

/-!
The lossless reader loses nothing. The machine holds the bytes of the character it is in, and the
value it has built spells them: whichever bytes follow within the ranges that it allows, the
character they complete is encoded as exactly the bytes held and these. So at every point the pieces
found and the bytes held make up what was read.
-/

namespace BlankUse.Utf8

def Piece.bytes : Piece → Bytes
  | .scalar c => encodeChar c
  | .broken bytes => bytes

def State.held : State → Bytes
  | .start => []
  | .inside held _ _ _ _ => held.reverse

/-- Every completion by the bytes still owed is encoded as the bytes held and the completion. -/
def Spells (held : Bytes) (value : Nat) (low high : UInt8) : Nat → Prop
  | 0 => False
  | 1 => ∀ byte, low ≤ byte → byte ≤ high →
      encodeChar (Char.ofNat (value * 64 + (byte.toNat - 0x80))) = held.reverse ++ [byte]
  | owed + 2 => ∀ byte, low ≤ byte → byte ≤ high →
      Spells (byte :: held) (value * 64 + (byte.toNat - 0x80)) 0x80 0xBF (owed + 1)

def State.Sound : State → Prop
  | .start => True
  | .inside held value low high owed => Spells held value low high owed

theorem char_of_nat_to_nat (value : Nat) (valid : value.isValidChar) :
    (Char.ofNat value).toNat = value := by
  rw [Char.ofNat, dif_pos valid]
  rfl

/-! The three lengths of characters beyond ASCII. -/

theorem encode_two (first second : UInt8)
    (lead : 0xC2 ≤ first.toNat ∧ first.toNat < 0xE0)
    (tail : 0x80 ≤ second.toNat ∧ second.toNat ≤ 0xBF) :
    encodeChar (Char.ofNat ((first.toNat - 0xC0) * 64 + (second.toNat - 0x80))) =
      [first, second] := by
  have same := char_of_nat_to_nat ((first.toNat - 0xC0) * 64 + (second.toNat - 0x80))
    (Or.inl (by omega))
  simp only [encodeChar, same]
  rw [if_neg (by omega), if_pos (by omega)]
  simp only [List.cons.injEq, and_true, ← UInt8.toNat_inj]
  constructor <;> simp <;> omega

theorem encode_three (first second third : UInt8)
    (lead : 0xE0 ≤ first.toNat ∧ first.toNat < 0xF0)
    (long : first.toNat = 0xE0 → 0xA0 ≤ second.toNat)
    (single : first.toNat = 0xED → second.toNat ≤ 0x9F)
    (middle : 0x80 ≤ second.toNat ∧ second.toNat ≤ 0xBF)
    (tail : 0x80 ≤ third.toNat ∧ third.toNat ≤ 0xBF) :
    encodeChar (Char.ofNat (((first.toNat - 0xE0) * 64 + (second.toNat - 0x80)) * 64 +
      (third.toNat - 0x80))) = [first, second, third] := by
  have same := char_of_nat_to_nat
    (((first.toNat - 0xE0) * 64 + (second.toNat - 0x80)) * 64 + (third.toNat - 0x80))
    (by unfold Nat.isValidChar; omega)
  simp only [encodeChar, same]
  rw [if_neg (by omega), if_neg (by omega), if_pos (by omega)]
  simp only [List.cons.injEq, and_true, ← UInt8.toNat_inj]
  refine ⟨?_, ?_, ?_⟩ <;> simp <;> omega

theorem encode_four (first second third fourth : UInt8)
    (lead : 0xF0 ≤ first.toNat ∧ first.toNat ≤ 0xF4)
    (long : first.toNat = 0xF0 → 0x90 ≤ second.toNat)
    (bounded : first.toNat = 0xF4 → second.toNat ≤ 0x8F)
    (middle : 0x80 ≤ second.toNat ∧ second.toNat ≤ 0xBF)
    (later : 0x80 ≤ third.toNat ∧ third.toNat ≤ 0xBF)
    (tail : 0x80 ≤ fourth.toNat ∧ fourth.toNat ≤ 0xBF) :
    encodeChar (Char.ofNat ((((first.toNat - 0xF0) * 64 + (second.toNat - 0x80)) * 64 +
      (third.toNat - 0x80)) * 64 + (fourth.toNat - 0x80))) = [first, second, third, fourth] := by
  have same := char_of_nat_to_nat
    ((((first.toNat - 0xF0) * 64 + (second.toNat - 0x80)) * 64 +
      (third.toNat - 0x80)) * 64 + (fourth.toNat - 0x80))
    (by unfold Nat.isValidChar; omega)
  simp only [encodeChar, same]
  rw [if_neg (by omega), if_neg (by omega), if_neg (by omega)]
  simp only [List.cons.injEq, and_true, ← UInt8.toNat_inj]
  refine ⟨?_, ?_, ?_, ?_⟩ <;> simp <;> omega

theorem encode_ascii (byte : UInt8) (small : byte.toNat < 0x80) :
    encodeChar (Char.ofNat byte.toNat) = [byte] := by
  have same := char_of_nat_to_nat byte.toNat (Or.inl (by omega))
  simp only [encodeChar, same, if_pos small, List.cons.injEq, and_true, ← UInt8.toNat_inj]
  simp

/-! One byte, and then any number. -/

/-- A result of the machine that accounts for some bytes. -/
def Keeps (bytes : Bytes) (result : State × List Piece) : Prop :=
  result.1.Sound ∧ result.2.flatMap Piece.bytes ++ result.1.held = bytes

theorem keeps_start (bytes : Bytes) (piece : Piece) (same : piece.bytes = bytes) :
    Keeps bytes (.start, [piece]) := by
  simp [Keeps, State.Sound, State.held, same]

theorem keeps_two (byte : UInt8) (lead : 0xC2 ≤ byte.toNat ∧ byte.toNat < 0xE0) :
    Keeps [byte] (.inside [byte] (byte.toNat - 0xC0) 0x80 0xBF 1, []) := by
  refine ⟨?_, rfl⟩
  intro second low high
  exact encode_two byte second lead ⟨low, high⟩

theorem keeps_three (byte low high : UInt8) (value : Nat) (spelled : value = byte.toNat - 0xE0)
    (lead : 0xE0 ≤ byte.toNat ∧ byte.toNat < 0xF0)
    (least : 0x80 ≤ low.toNat) (most : high.toNat ≤ 0xBF)
    (long : byte.toNat = 0xE0 → 0xA0 ≤ low.toNat)
    (single : byte.toNat = 0xED → high.toNat ≤ 0x9F) :
    Keeps [byte] (.inside [byte] value low high 2, []) := by
  refine ⟨?_, rfl⟩
  intro second above below third thirdAbove thirdBelow
  rw [UInt8.le_iff_toNat_le] at above below
  rw [spelled]
  apply encode_three byte second third lead _ _ _ ⟨thirdAbove, thirdBelow⟩
  · intro first
    have bound := long first
    omega
  · intro first
    have bound := single first
    omega
  · omega

theorem keeps_four (byte low high : UInt8) (value : Nat) (spelled : value = byte.toNat - 0xF0)
    (lead : 0xF0 ≤ byte.toNat ∧ byte.toNat ≤ 0xF4)
    (least : 0x80 ≤ low.toNat) (most : high.toNat ≤ 0xBF)
    (long : byte.toNat = 0xF0 → 0x90 ≤ low.toNat)
    (bounded : byte.toNat = 0xF4 → high.toNat ≤ 0x8F) :
    Keeps [byte] (.inside [byte] value low high 3, []) := by
  refine ⟨?_, rfl⟩
  intro second above below third thirdAbove thirdBelow fourth fourthAbove fourthBelow
  rw [UInt8.le_iff_toNat_le] at above below
  rw [spelled]
  apply encode_four byte second third fourth lead _ _ _ ⟨thirdAbove, thirdBelow⟩
    ⟨fourthAbove, fourthBelow⟩
  · intro first
    have bound := long first
    omega
  · intro first
    have bound := bounded first
    omega
  · omega

theorem first_keeps (byte : UInt8) : Keeps [byte] (first byte) := by
  simp only [first]
  split_ifs with ascii stray two e0 ed three f0 four f4
  · exact keeps_start [byte] _ (encode_ascii byte ascii)
  · exact keeps_start [byte] _ rfl
  · exact keeps_two byte (by omega)
  · exact keeps_three byte 0xA0 0xBF 0 (by omega) (by omega) (by decide) (by decide)
      (fun _ => by decide) (by omega)
  · exact keeps_three byte 0x80 0x9F 0xD (by omega) (by omega) (by decide) (by decide)
      (by omega) (fun _ => by decide)
  · exact keeps_three byte 0x80 0xBF _ rfl (by omega) (by decide) (by decide) (by omega) (by omega)
  · exact keeps_four byte 0x90 0xBF 0 (by omega) (by omega) (by decide) (by decide)
      (fun _ => by decide) (by omega)
  · exact keeps_four byte 0x80 0xBF _ rfl (by omega) (by decide) (by decide) (by omega) (by omega)
  · exact keeps_four byte 0x80 0x8F 4 (by omega) (by omega) (by decide) (by decide)
      (by omega) (fun _ => by decide)
  · exact keeps_start [byte] _ rfl

theorem step_keeps (state : State) (byte : UInt8) (sound : state.Sound) :
    Keeps (state.held ++ [byte]) (step state byte) := by
  cases state with
  | start => exact first_keeps byte
  | inside held value low high owed =>
      simp only [step]
      split_ifs with allowed last
      · have spelled : owed = 1 := by
          cases owed with
          | zero => exact sound.elim
          | succ owed => omega
        subst spelled
        exact keeps_start _ _ (sound byte allowed.1 allowed.2)
      · obtain ⟨owed, rfl⟩ : ∃ more, owed = more + 2 := ⟨owed - 2, by omega⟩
        refine ⟨sound byte allowed.1 allowed.2, ?_⟩
        simp [State.held]
      · obtain ⟨kept, whole⟩ := first_keeps byte
        refine ⟨kept, ?_⟩
        simp only [List.flatMap_cons, List.append_assoc, whole]
        rfl

theorem feed_keeps (state : State) (done : List Piece) (bytes : Bytes) (sound : state.Sound) :
    Keeps ((done.reverse).flatMap Piece.bytes ++ state.held ++ bytes)
      ((feed state done bytes).1, (feed state done bytes).2.reverse) := by
  induction bytes generalizing state done with
  | nil => exact ⟨sound, by simp [feed]⟩
  | cons byte rest ih =>
      obtain ⟨kept, whole⟩ := step_keeps state byte sound
      have later := ih (step state byte).1 ((step state byte).2.reverse ++ done) kept
      have same : (done.reverse).flatMap Piece.bytes ++ state.held ++ byte :: rest =
          ((step state byte).2.reverse ++ done).reverse.flatMap Piece.bytes ++
            (step state byte).1.held ++ rest := by
        have joined : state.held ++ byte :: rest = state.held ++ [byte] ++ rest := by simp
        rw [List.append_assoc, joined, ← whole]
        simp
      rw [same]
      exact later

theorem pieces_bytes (bytes : Bytes) : (pieces bytes).flatMap Piece.bytes = bytes := by
  obtain ⟨_, whole⟩ := feed_keeps .start [] bytes trivial
  have closed : ∀ state : State, (finish state).flatMap Piece.bytes = state.held := by
    intro state
    cases state <;> simp [finish, State.held, Piece.bytes]
  simpa [pieces, closed, State.held] using whole

theorem of_glyphs_piece (piece : Piece) : ofGlyphs piece.glyphs = piece.bytes := by
  cases piece with
  | scalar c => simp [ofGlyphs, Piece.glyphs, Glyph.bytes, Piece.bytes]
  | broken bytes => simp [ofGlyphs, Piece.glyphs, Glyph.bytes, Piece.bytes, List.flatMap_map]

/-- Reading bytes without loss and writing what was read gives the bytes back. -/
theorem of_glyphs_glyphs (bytes : Bytes) : ofGlyphs (glyphs bytes) = bytes := by
  have each : (pieces bytes).flatMap (fun piece => ofGlyphs piece.glyphs) = bytes := by
    simpa only [of_glyphs_piece] using pieces_bytes bytes
  simpa [ofGlyphs, glyphs, List.flatMap_assoc] using each

theorem feed_done (state : State) (done : List Piece) (bytes : Bytes) :
    feed state done bytes = ((feed state [] bytes).1, (feed state [] bytes).2 ++ done) := by
  induction bytes generalizing state done with
  | nil => rfl
  | cons byte rest ih =>
      simp only [feed]
      rw [ih _ ((step state byte).2.reverse ++ done), ih _ ((step state byte).2.reverse ++ [])]
      simp

theorem glyphs_ascii_cons (byte : UInt8) (rest : Bytes) (small : byte.toNat < 0x80) :
    glyphs (byte :: rest) = .scalar (Char.ofNat byte.toNat) :: glyphs rest := by
  have taken : step .start byte = (.start, [.scalar (Char.ofNat byte.toNat)]) := by
    simp [step, first, small]
  simp only [glyphs, pieces, feed, taken]
  rw [feed_done]
  simp [Piece.glyphs]

end BlankUse.Utf8

namespace BlankUse.LineBuffer

/-- Dropping a comment mark undoes adding it, whatever bytes the line has. -/
theorem drop_comment_comment (line : Bytes) : dropComment (comment line) = line := by
  simp only [dropComment, comment, commentMark, List.cons_append, List.nil_append]
  rw [Utf8.glyphs_ascii_cons _ _ (by decide), Utf8.glyphs_ascii_cons _ _ (by decide),
    Utf8.glyphs_ascii_cons _ _ (by decide)]
  exact Utf8.of_glyphs_glyphs line

theorem drop_comment_suffix (line : Bytes) : dropComment line <:+ line := by
  have whole := Utf8.of_glyphs_glyphs line
  rw [← List.take_append_drop commentMark.length (Utf8.glyphs line), Utf8.ofGlyphs,
    List.flatMap_append] at whole
  exact ⟨_, whole⟩

end BlankUse.LineBuffer
