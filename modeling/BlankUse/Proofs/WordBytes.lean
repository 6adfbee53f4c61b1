import BlankUse.Marker
import BlankUse.Text.CharClass
import Mathlib.Data.List.Basic

/-!
The bytes of words. A name from a compiler message and the name of a tool are words of two slightly
different classes. In either class an ASCII character is a letter, a digit or the low line, and
every other character is made of bytes above ASCII, so the bytes of a word are told apart from all
the bytes that give a usage its shape.
-/

namespace BlankUse

open Byte

def Text.WordChars (text : Text) : Prop := ∀ c ∈ text, Text.isWord c ∨ Text.isLabel c

instance (text : Text) : Decidable text.WordChars :=
  List.decidableBAll (fun c => Text.isWord c ∨ Text.isLabel c) text

/-- A letter, a digit or the low line of ASCII, or a byte above ASCII. -/
def Byte.IsWordByte (byte : UInt8) : Prop :=
  0x80 ≤ byte.toNat ∨ (0x30 ≤ byte.toNat ∧ byte.toNat ≤ 0x39) ∨
    (0x41 ≤ byte.toNat ∧ byte.toNat ≤ 0x5A) ∨ byte.toNat = 0x5F ∨
    (0x61 ≤ byte.toNat ∧ byte.toNat ≤ 0x7A)

instance (byte : UInt8) : Decidable (IsWordByte byte) := inferInstanceAs (Decidable (_ ∨ _))

theorem Byte.is_blank_iff (byte : UInt8) :
    isBlank byte = true ↔ byte.toNat = 0x20 ∨ (0x09 ≤ byte.toNat ∧ byte.toNat ≤ 0x0D) := by
  simp [isBlank, space, UInt8.le_iff_toNat_le, ← UInt8.toNat_inj]

theorem Byte.IsWordByte.not_blank {byte : UInt8} (word : IsWordByte byte) :
    isBlank byte = false := by
  rw [Bool.eq_false_iff, ne_eq, is_blank_iff]
  unfold IsWordByte at word
  omega

theorem Text.ascii_word_range {c : Char} (word : Text.isAsciiWord c = true) :
    (0x30 ≤ c.toNat ∧ c.toNat ≤ 0x39) ∨ (0x41 ≤ c.toNat ∧ c.toNat ≤ 0x5A) ∨ c.toNat = 0x5F ∨
      (0x61 ≤ c.toNat ∧ c.toNat ≤ 0x7A) := by
  delta Text.isAsciiWord Char.isAlphanum Char.isAlpha Char.isUpper Char.isLower Char.isDigit at word
  simp only [Bool.or_eq_true, Bool.and_eq_true, decide_eq_true_eq, ge_iff_le,
    UInt32.le_iff_toNat_le, beq_iff_eq] at word
  change (((0x41 ≤ c.toNat ∧ c.toNat ≤ 0x5A) ∨ (0x61 ≤ c.toNat ∧ c.toNat ≤ 0x7A)) ∨
    (0x30 ≤ c.toNat ∧ c.toNat ≤ 0x39)) ∨ c = '_' at word
  rcases word with ((upper | lower) | digit) | rfl
  · omega
  · omega
  · omega
  · decide

/-- A character of ASCII is its own byte, and the bytes of all others lie above ASCII. -/
theorem Utf8.encode_char_byte {c : Char} {byte : UInt8} (member : byte ∈ Utf8.encodeChar c) :
    (c.toNat < 0x80 ∧ byte.toNat = c.toNat) ∨ 0x80 ≤ byte.toNat := by
  have bounded : c.toNat < 0x110000 := by
    rcases c.valid with low | ⟨-, high⟩
    · exact Nat.lt_trans low (by decide)
    · exact high
  simp only [Utf8.encodeChar] at member
  split at member
  · next small =>
    obtain rfl := List.mem_singleton.mp member
    left
    simp [small]
    omega
  · right
    split at member
    · simp only [List.mem_cons, List.not_mem_nil, or_false] at member
      rcases member with rfl | rfl <;> simp <;> omega
    · split at member
      · simp only [List.mem_cons, List.not_mem_nil, or_false] at member
        rcases member with rfl | rfl | rfl <;> simp <;> omega
      · simp only [List.mem_cons, List.not_mem_nil, or_false] at member
        rcases member with rfl | rfl | rfl | rfl <;> simp <;> omega

theorem Text.WordChars.bytes {text : Text} (word : text.WordChars) :
    ∀ byte ∈ Utf8.encode text, IsWordByte byte := by
  intro byte member
  obtain ⟨c, inside, made⟩ := List.mem_flatMap.mp member
  rcases Utf8.encode_char_byte made with ⟨small, same⟩ | above
  · have ascii : Text.isAsciiWord c = true := by
      have low : Text.isAscii c = true := by simp [Text.isAscii, small]
      simpa [Text.isWord, Text.isLabel, low] using word c inside
    have range := Text.ascii_word_range ascii
    unfold IsWordByte
    omega
  · exact Or.inl above

namespace Marker

def closingFrame : Bytes :=
  space :: ascii ['/', '*', ' ', 'T', 'O', 'D', 'O', ':', ' ', ' ', '*', '/']

theorem closing_avoids {marker : Marker} (word : marker.tool.WordChars) {byte : UInt8}
    (foreign : ¬ IsWordByte byte) (unframed : byte ∉ closingFrame) : byte ∉ marker.closing := by
  intro inside
  have cases : byte ∈ closingFrame ∨ byte ∈ Utf8.encode marker.tool := by
    simp only [closing, comment, closingFrame, ascii, List.map_cons, List.map_nil, List.mem_cons,
      List.mem_append, List.not_mem_nil, or_false] at inside ⊢
    tauto
  rcases cases with framed | spelled
  · exact unframed framed
  · exact foreign (word.bytes byte spelled)

theorem closing_newline_free {marker : Marker} (word : marker.tool.WordChars) :
    newline ∉ marker.closing :=
  closing_avoids word (by decide) (by decide)

theorem closing_last (marker : Marker) : ∃ front, marker.closing = front ++ [slash] :=
  ⟨space :: ascii ['/', '*', ' ', 'T', 'O', 'D', 'O', ':', ' '] ++ Utf8.encode marker.tool ++
    ascii [' ', '*'], by simp [closing, comment, ascii, slash]⟩

theorem comment_shape {marker : Marker} (word : marker.tool.WordChars) :
    ∃ inner, marker.comment = slash :: (inner ++ [slash]) ∧ slash ∉ inner ∧
      inner.getLast? = some 0x2A := by
  have spelled : slash ∉ Utf8.encode marker.tool := fun inside =>
    absurd (word.bytes slash inside) (by decide)
  refine ⟨ascii ['*', ' ', 'T', 'O', 'D', 'O', ':', ' '] ++ Utf8.encode marker.tool ++ [space] ++
    [0x2A], ?_, ?_, List.getLast?_concat⟩
  · simp [comment, ascii, slash, space]
  · have fixed : slash ∉ ascii ['*', ' ', 'T', 'O', 'D', 'O', ':', ' '] ++ [space] ++ [0x2A] := by decide
    simp only [List.mem_append, not_or] at fixed ⊢
    exact ⟨⟨⟨fixed.1.1, spelled⟩, fixed.1.2⟩, fixed.2⟩

end Marker

end BlankUse
