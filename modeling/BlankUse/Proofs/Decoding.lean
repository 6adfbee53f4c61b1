import BlankUse.Proofs.Lossless

/-!
Reading what was written. A character that was encoded is read back as itself, whatever comes before
and behind, as long as nothing is open when it starts. Only some bytes, the tails, ever go on with an
open character; any other byte ends it as a broken part. So bytes may be cut in front of every byte that
is no tail, and what is broken on one side of the cut does no harm to the other.
-/

namespace BlankUse.Utf8

theorem feed_append (state : State) (done : List Piece) (front back : Bytes) :
    feed state done (front ++ back) =
      feed (feed state done front).1 (feed state done front).2 back := by
  induction front generalizing state done with
  | nil => rfl
  | cons byte front ih => exact ih _ _

theorem to_nat_lt (c : Char) : c.toNat < 0x110000 ∧ ¬ (0xD800 ≤ c.toNat ∧ c.toNat < 0xE000) := by
  have valid : c.toNat < 0xD800 ∨ 0xDFFF < c.toNat ∧ c.toNat < 0x110000 := c.valid
  omega

theorem to_uint8_to_nat {value : Nat} (small : value < 256) : value.toUInt8.toNat = value := by
  simp
  omega

/-! Where the first byte of a character leads. -/

theorem first_ascii {byte : UInt8} (small : byte.toNat < 0x80) :
    first byte = (.start, [.scalar (Char.ofNat byte.toNat)]) := by
  simp [first, small]

theorem first_two {byte : UInt8} (lead : 0xC2 ≤ byte.toNat ∧ byte.toNat < 0xE0) :
    first byte = (.inside [byte] (byte.toNat - 0xC0) 0x80 0xBF 1, []) := by
  simp only [first]
  rw [if_neg (by omega), if_neg (by omega), if_pos (by omega)]

theorem first_three {byte : UInt8} (lead : 0xE0 ≤ byte.toNat ∧ byte.toNat < 0xF0) :
    first byte = (.inside [byte] (byte.toNat - 0xE0)
      (if byte.toNat = 0xE0 then 0xA0 else 0x80) (if byte.toNat = 0xED then 0x9F else 0xBF) 2, []) := by
  by_cases e0 : byte.toNat = 0xE0
  · simp [first, e0]
  · by_cases ed : byte.toNat = 0xED
    · simp [first, ed]
    · simp only [first, e0, ed, if_false]
      rw [if_neg (by omega), if_neg (by omega), if_neg (by omega), if_pos (by omega)]

theorem first_four {byte : UInt8} (lead : 0xF0 ≤ byte.toNat ∧ byte.toNat ≤ 0xF4) :
    first byte = (.inside [byte] (byte.toNat - 0xF0)
      (if byte.toNat = 0xF0 then 0x90 else 0x80) (if byte.toNat = 0xF4 then 0x8F else 0xBF) 3, []) := by
  by_cases f0 : byte.toNat = 0xF0
  · simp [first, f0]
  · by_cases f4 : byte.toNat = 0xF4
    · simp [first, f4]
    · simp only [first, f0, f4, if_false]
      rw [if_neg (by omega), if_neg (by omega), if_neg (by omega), if_neg (by omega),
        if_neg (by omega), if_neg (by omega), if_pos (by omega)]

/-! What the bytes behind it do. -/

theorem step_last {held : Bytes} {value : Nat} {low high byte : UInt8}
    (allowed : low ≤ byte ∧ byte ≤ high) :
    step (.inside held value low high 1) byte =
      (.start, [.scalar (Char.ofNat (value * 64 + (byte.toNat - 0x80)))]) := by
  simp [step, allowed]

theorem step_more {held : Bytes} {value owed : Nat} {low high byte : UInt8}
    (allowed : low ≤ byte ∧ byte ≤ high) :
    step (.inside held value low high (owed + 2)) byte =
      (.inside (byte :: held) (value * 64 + (byte.toNat - 0x80)) 0x80 0xBF (owed + 1), []) := by
  simp [step, allowed]

/-! The three lengths of characters beyond ASCII. -/

theorem feed_two (lead tail : UInt8) (done : List Piece)
    (leads : 0xC2 ≤ lead.toNat ∧ lead.toNat < 0xE0)
    (tails : 0x80 ≤ tail.toNat ∧ tail.toNat ≤ 0xBF) :
    feed .start done [lead, tail] =
      (.start, .scalar (Char.ofNat ((lead.toNat - 0xC0) * 64 + (tail.toNat - 0x80))) :: done) := by
  simp only [feed, step.eq_1, first_two leads, step_last (show 0x80 ≤ tail ∧ tail ≤ 0xBF from tails)]
  rfl

theorem feed_three (lead middle tail : UInt8) (done : List Piece)
    (leads : 0xE0 ≤ lead.toNat ∧ lead.toNat < 0xF0)
    (long : lead.toNat = 0xE0 → 0xA0 ≤ middle.toNat)
    (single : lead.toNat = 0xED → middle.toNat ≤ 0x9F)
    (middles : 0x80 ≤ middle.toNat ∧ middle.toNat ≤ 0xBF)
    (tails : 0x80 ≤ tail.toNat ∧ tail.toNat ≤ 0xBF) :
    feed .start done [lead, middle, tail] =
      (.start, .scalar (Char.ofNat (((lead.toNat - 0xE0) * 64 + (middle.toNat - 0x80)) * 64 +
        (tail.toNat - 0x80))) :: done) := by
  have low : (if lead.toNat = 0xE0 then 0xA0 else 0x80 : UInt8) ≤ middle := by
    split_ifs with e0
    · exact long e0
    · exact middles.1
  have high : middle ≤ (if lead.toNat = 0xED then 0x9F else 0xBF : UInt8) := by
    split_ifs with ed
    · exact single ed
    · exact middles.2
  simp only [feed, step.eq_1, first_three leads, step_more ⟨low, high⟩,
    step_last (show 0x80 ≤ tail ∧ tail ≤ 0xBF from tails)]
  rfl

theorem feed_four (lead second third tail : UInt8) (done : List Piece)
    (leads : 0xF0 ≤ lead.toNat ∧ lead.toNat ≤ 0xF4)
    (long : lead.toNat = 0xF0 → 0x90 ≤ second.toNat)
    (bounded : lead.toNat = 0xF4 → second.toNat ≤ 0x8F)
    (seconds : 0x80 ≤ second.toNat ∧ second.toNat ≤ 0xBF)
    (thirds : 0x80 ≤ third.toNat ∧ third.toNat ≤ 0xBF)
    (tails : 0x80 ≤ tail.toNat ∧ tail.toNat ≤ 0xBF) :
    feed .start done [lead, second, third, tail] =
      (.start, .scalar (Char.ofNat ((((lead.toNat - 0xF0) * 64 + (second.toNat - 0x80)) * 64 +
        (third.toNat - 0x80)) * 64 + (tail.toNat - 0x80))) :: done) := by
  have low : (if lead.toNat = 0xF0 then 0x90 else 0x80 : UInt8) ≤ second := by
    split_ifs with f0
    · exact long f0
    · exact seconds.1
  have high : second ≤ (if lead.toNat = 0xF4 then 0x8F else 0xBF : UInt8) := by
    split_ifs with f4
    · exact bounded f4
    · exact seconds.2
  simp only [feed, step.eq_1, first_four leads, step_more ⟨low, high⟩,
    step_more (show 0x80 ≤ third ∧ third ≤ 0xBF from thirds),
    step_last (show 0x80 ≤ tail ∧ tail ≤ 0xBF from tails)]
  rfl

theorem feed_char (c : Char) (done : List Piece) :
    feed .start done (encodeChar c) = (.start, .scalar c :: done) := by
  obtain ⟨bounded, unpaired⟩ := to_nat_lt c
  simp only [encodeChar]
  split_ifs with one two three
  · have value := to_uint8_to_nat (show c.toNat < 256 by omega)
    rw [feed, step, first_ascii (by omega), value, Char.ofNat_toNat]
    rfl
  · have lead := to_uint8_to_nat (show 0xC0 + c.toNat / 64 < 256 by omega)
    have tail := to_uint8_to_nat (show 0x80 + c.toNat % 64 < 256 by omega)
    have spelled : (0xC0 + c.toNat / 64 - 0xC0) * 64 + (0x80 + c.toNat % 64 - 0x80) = c.toNat := by
      omega
    rw [feed_two _ _ _ (by omega) (by omega), lead, tail, spelled, Char.ofNat_toNat]
  · have lead := to_uint8_to_nat (show 0xE0 + c.toNat / 4096 < 256 by omega)
    have middle := to_uint8_to_nat (show 0x80 + c.toNat / 64 % 64 < 256 by omega)
    have tail := to_uint8_to_nat (show 0x80 + c.toNat % 64 < 256 by omega)
    have spelled : ((0xE0 + c.toNat / 4096 - 0xE0) * 64 + (0x80 + c.toNat / 64 % 64 - 0x80)) * 64 +
        (0x80 + c.toNat % 64 - 0x80) = c.toNat := by omega
    rw [feed_three _ _ _ _ (by omega) (by omega) (by omega) (by omega) (by omega), lead, middle, tail,
      spelled, Char.ofNat_toNat]
  · have lead := to_uint8_to_nat (show 0xF0 + c.toNat / 262144 < 256 by omega)
    have second := to_uint8_to_nat (show 0x80 + c.toNat / 4096 % 64 < 256 by omega)
    have third := to_uint8_to_nat (show 0x80 + c.toNat / 64 % 64 < 256 by omega)
    have tail := to_uint8_to_nat (show 0x80 + c.toNat % 64 < 256 by omega)
    have spelled : (((0xF0 + c.toNat / 262144 - 0xF0) * 64 + (0x80 + c.toNat / 4096 % 64 - 0x80)) * 64 +
        (0x80 + c.toNat / 64 % 64 - 0x80)) * 64 + (0x80 + c.toNat % 64 - 0x80) = c.toNat := by omega
    rw [feed_four _ _ _ _ _ (by omega) (by omega) (by omega) (by omega) (by omega) (by omega), lead,
      second, third, tail, spelled, Char.ofNat_toNat]

theorem feed_encode (text : Text) (done : List Piece) :
    feed .start done (encode text) = (.start, (text.map Piece.scalar).reverse ++ done) := by
  induction text generalizing done with
  | nil => rfl
  | cons c rest ih =>
      rw [encode, List.flatMap_cons, feed_append, feed_char, ← encode, ih]
      simp

theorem pieces_encode (text : Text) (rest : Bytes) :
    pieces (encode text ++ rest) = text.map Piece.scalar ++ pieces rest := by
  simp only [pieces, feed_append, feed_encode, List.append_nil]
  rw [feed_done]
  simp

theorem encode_injective {first second : Text} (same : encode first = encode second) :
    first = second := by
  have pieced := congrArg pieces same
  rw [← List.append_nil (encode first), ← List.append_nil (encode second), pieces_encode,
    pieces_encode, List.append_cancel_right_eq] at pieced
  exact List.map_injective_iff.mpr (fun _ _ => Piece.scalar.inj) pieced

/-! Only tails go on with a character; any other byte ends whatever is open. -/

def IsTail (byte : UInt8) : Prop := 0x80 ≤ byte.toNat ∧ byte.toNat ≤ 0xBF

/-- The open character goes on with tails only. -/
def State.OwesTails : State → Prop
  | .start => True
  | .inside _ _ low high _ => 0x80 ≤ low.toNat ∧ high.toNat ≤ 0xBF

theorem first_owes_tails (byte : UInt8) : (first byte).1.OwesTails := by
  simp only [first]
  split_ifs <;> simp [State.OwesTails]

theorem step_owes_tails (state : State) (byte : UInt8) : (step state byte).1.OwesTails := by
  cases state with
  | start => exact first_owes_tails byte
  | inside held value low high owed =>
      simp only [step]
      split_ifs
      · trivial
      · simp [State.OwesTails]
      · exact first_owes_tails byte

theorem feed_owes_tails (state : State) (done : List Piece) (bytes : Bytes)
    (owes : state.OwesTails) : (feed state done bytes).1.OwesTails := by
  induction bytes generalizing state done with
  | nil => exact owes
  | cons byte rest ih => exact ih _ _ (step_owes_tails state byte)

theorem step_fresh {state : State} (owes : state.OwesTails) {byte : UInt8} (fresh : ¬ IsTail byte) :
    step state byte = ((first byte).1, finish state ++ (first byte).2) := by
  cases state with
  | start => rfl
  | inside held value low high owed =>
      have refused : ¬ (low ≤ byte ∧ byte ≤ high) := by
        rintro ⟨above, below⟩
        exact fresh ⟨Nat.le_trans owes.1 above, Nat.le_trans below owes.2⟩
      simp only [step, if_neg refused]
      rfl

/-- Bytes may be cut in front of a byte that is no tail, and each side is read on its own. -/
theorem pieces_fresh (front : Bytes) {byte : UInt8} (rest : Bytes) (fresh : ¬ IsTail byte) :
    pieces (front ++ byte :: rest) = pieces front ++ pieces (byte :: rest) := by
  have ended := step_fresh (feed_owes_tails .start [] front trivial) fresh
  have begun : step .start byte = first byte := rfl
  simp only [pieces, feed_append, feed, ended, begun]
  rw [feed_done, feed_done (first byte).1 ((first byte).2.reverse ++ [])]
  simp

theorem ascii_not_tail {byte : UInt8} (small : byte.toNat < 0x80) : ¬ IsTail byte := by
  rintro ⟨above, -⟩
  omega

theorem pieces_ascii (front : Bytes) {byte : UInt8} (rest : Bytes) (small : byte.toNat < 0x80) :
    pieces (front ++ byte :: rest) =
      pieces front ++ .scalar (Char.ofNat byte.toNat) :: pieces rest := by
  have read := pieces_encode [Char.ofNat byte.toNat] rest
  rw [encode, List.flatMap_singleton, encode_ascii byte small] at read
  rw [pieces_fresh front rest (ascii_not_tail small)]
  exact congrArg (pieces front ++ ·) read

theorem decode_lossy_ascii (front : Bytes) {byte : UInt8} (rest : Bytes)
    (small : byte.toNat < 0x80) :
    decodeLossy (front ++ byte :: rest) =
      decodeLossy front ++ Char.ofNat byte.toNat :: decodeLossy rest := by
  rw [decodeLossy, pieces_ascii front rest small]
  simp [decodeLossy, Piece.lossy]

theorem decode_lossy_encode (text : Text) (rest : Bytes) :
    decodeLossy (encode text ++ rest) = text ++ decodeLossy rest := by
  rw [decodeLossy, pieces_encode]
  simp [decodeLossy, Piece.lossy, Function.comp_def]

/-- A character of ASCII is read only where its byte stands. -/
theorem decode_lossy_free {bytes : Bytes} {byte : UInt8} (small : byte.toNat < 0x80)
    (free : byte ∉ bytes) : Char.ofNat byte.toNat ∉ decodeLossy bytes := by
  intro inside
  obtain ⟨piece, found, same⟩ := List.mem_map.mp inside
  cases piece with
  | scalar c =>
      apply free
      rw [← pieces_bytes bytes]
      apply List.mem_flatMap_of_mem found
      rw [show c = Char.ofNat byte.toNat from same, Piece.bytes, encode_ascii byte small]
      simp
  | broken held =>
      have spelled := congrArg Char.toNat same
      rw [char_of_nat_to_nat byte.toNat (Or.inl (by omega))] at spelled
      have large : (Char.ofNat 0xFFFD).toNat = 0xFFFD := by decide
      rw [Piece.lossy, large] at spelled
      omega

end BlankUse.Utf8
