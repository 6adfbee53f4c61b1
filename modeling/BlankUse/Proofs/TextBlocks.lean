import BlankUse.Proofs.Decoding
import BlankUse.TextFile

/-!
Reading text in blocks. Line ends become line feeds piece by piece, as long as no carriage return is
parted from the line feed behind it; the reader holds back a carriage return at the end of a block for
that reason. So where blocks end makes no difference. Well-formed bytes are read as a whole, and bytes
that are not well formed are refused, unless enough characters have been read before that shows.
-/

namespace BlankUse.TextFile

/-! Line ends. -/

theorem unify_loop_done (afterReturn : Bool) (done text : Text) :
    unifyLoop afterReturn done text = done.reverse ++ unifyLoop afterReturn [] text := by
  induction text generalizing afterReturn done with
  | nil => simp [unifyLoop]
  | cons c rest ih =>
      simp only [unifyLoop]
      split_ifs
      · rw [ih true ('\n' :: done), ih true ['\n']]
        simp
      · exact ih false done
      · rw [ih false (c :: done), ih false [c]]
        simp

theorem unify_line {line : Text} (free : '\r' ∉ line) (rest : Text) :
    unifyLineEnds (line ++ rest) = line ++ unifyLineEnds rest := by
  induction line with
  | nil => rfl
  | cons c line ih =>
      have here : c ≠ '\r' := fun same => free (by simp [same])
      have later : '\r' ∉ line := fun inside => free (by simp [inside])
      have step : unifyLineEnds (c :: (line ++ rest)) = unifyLoop false [c] (line ++ rest) := by
        simp [unifyLineEnds, unifyLoop, here]
      rw [List.cons_append, step, unify_loop_done, ← unifyLineEnds, ih later]
      rfl

theorem unify_feed (rest : Text) : unifyLineEnds ('\n' :: rest) = '\n' :: unifyLineEnds rest :=
  unify_loop_done false ['\n'] rest

theorem unify_return_feed (rest : Text) :
    unifyLineEnds ('\r' :: '\n' :: rest) = '\n' :: unifyLineEnds rest :=
  unify_loop_done false ['\n'] rest

/-- Text may be cut where no line feed is parted from a carriage return. -/
theorem unify_loop_append (afterReturn : Bool) (front back : Text)
    (apart : (front = [] ∧ afterReturn = true) ∨ front.getLast? = some '\r' →
      back.head? ≠ some '\n') :
    unifyLoop afterReturn [] (front ++ back) =
      unifyLoop afterReturn [] front ++ unifyLineEnds back := by
  induction front generalizing afterReturn with
  | nil =>
      cases back with
      | nil => rfl
      | cons c back =>
          cases afterReturn with
          | false => rfl
          | true =>
              have other : c ≠ '\n' := by simpa using apart (Or.inl ⟨rfl, rfl⟩)
              simp [unifyLineEnds, unifyLoop, other]
  | cons c front ih =>
      have later : (front = [] ∧ (c == '\r') = true) ∨ front.getLast? = some '\r' →
          back.head? ≠ some '\n' := by
        rintro (⟨rfl, returns⟩ | returned)
        · exact apart (Or.inr (by simpa using returns))
        · exact apart (Or.inr (by simp [List.getLast?_cons, returned]))
      have rest := ih _ later
      by_cases returns : c = '\r'
      · simp only [returns, beq_self_eq_true] at rest
        simp only [returns, List.cons_append, unifyLoop, beq_self_eq_true, if_true]
        rw [unify_loop_done, unify_loop_done true ['\n'] front, rest]
        simp
      · have unreturned : (c == '\r') = false := by simp [returns]
        rw [unreturned] at rest
        simp only [List.cons_append, unifyLoop, unreturned, Bool.false_eq_true, if_false]
        split
        · exact rest
        · rw [unify_loop_done, unify_loop_done false [c] front, rest]
          simp

theorem unify_append {front back : Text}
    (apart : front.getLast? = some '\r' → back.head? ≠ some '\n') :
    unifyLineEnds (front ++ back) = unifyLineEnds front ++ unifyLineEnds back := by
  apply unify_loop_append false front back
  rintro (⟨-, returned⟩ | returned)
  · cases returned
  · exact apart returned

/-! Blocks. -/

def Progress.chars (progress : Progress) (body : Text) : Text :=
  body ++ if progress.heldReturn then ['\r'] else []

/-- What the reader knows of the bytes it has passed: they are characters, but for one that may still
be open, and all of them are in the text, but for a carriage return at their end. -/
structure Progress.Passed (progress : Progress) (bytes : Bytes) (body : Text) : Prop where
  fed : Utf8.feed .start [] bytes = (progress.state, ((progress.chars body).map .scalar).reverse)
  text : progress.text = unifyLineEnds body
  held : progress.heldReturn = false → body.getLast? ≠ some '\r'

theorem scalars_eq_some {pieces : List Utf8.Piece} {text : Text} :
    pieces.mapM Utf8.Piece.scalar? = some text ↔ pieces = text.map .scalar := by
  induction pieces generalizing text with
  | nil => cases text <;> simp
  | cons piece pieces ih =>
      cases piece with
      | broken bytes => cases text <;> simp [List.mapM_cons, Utf8.Piece.scalar?]
      | scalar c =>
          cases text with
          | nil => simp [List.mapM_cons, Utf8.Piece.scalar?, Option.bind_eq_some_iff]
          | cons d text =>
              simp [List.mapM_cons, Utf8.Piece.scalar?, Option.bind_eq_some_iff, ih, and_comm]

theorem scalars_eq_none {pieces : List Utf8.Piece} :
    pieces.mapM Utf8.Piece.scalar? = none ↔ ∃ bytes, .broken bytes ∈ pieces := by
  induction pieces with
  | nil => simp
  | cons piece pieces ih =>
      cases piece with
      | broken bytes => simp [List.mapM_cons, Utf8.Piece.scalar?]
      | scalar c =>
          rw [List.mapM_cons]
          cases read : pieces.mapM Utf8.Piece.scalar? <;> simp_all [Utf8.Piece.scalar?]

def Progress.raw (progress : Progress) (decoded : Text) : Text :=
  if progress.heldReturn && !decoded.isEmpty then '\r' :: decoded else decoded

theorem Progress.Passed.raw {progress : Progress} {bytes : Bytes} {body decoded : Text}
    (passed : progress.Passed bytes body)
    (moving : ¬ (progress.heldReturn = true ∧ decoded = [])) :
    progress.chars body ++ decoded = body ++ progress.raw decoded ∧
      (body.getLast? = some '\r' → (progress.raw decoded).head? = some '\r') := by
  cases held : progress.heldReturn with
  | false => simp [Progress.chars, Progress.raw, held, passed.held held]
  | true =>
      have some : decoded ≠ [] := fun none => moving ⟨held, none⟩
      simp [Progress.chars, Progress.raw, held, some]

/-- The reader passes a block of characters. A carriage return at the end of the block is held back,
and one that was held back before is read with the first character behind it. -/
theorem Progress.Passed.add_block {progress : Progress} {bytes : Bytes} {body : Text}
    (passed : progress.Passed bytes body) {block : Bytes} {decoded : Text}
    (found : (Utf8.feed progress.state [] block).2.reverse = decoded.map .scalar) :
    ∃ next grown, progress.addBlock block = some next ∧ next.Passed (bytes ++ block) grown := by
  have fed : Utf8.feed .start [] (bytes ++ block) = ((Utf8.feed progress.state [] block).1,
      ((progress.chars body ++ decoded).map .scalar).reverse) := by
    rw [Utf8.feed_append, passed.fed, Utf8.feed_done, ← List.reverse_reverse (Utf8.feed _ _ _).2, found]
    simp
  have read : (Utf8.feed progress.state [] block).2.reverse.mapM Utf8.Piece.scalar? = some decoded :=
    scalars_eq_some.mpr found
  simp only [addBlock, read]
  by_cases waiting : progress.heldReturn = true ∧ decoded = []
  · refine ⟨_, body, rfl, ?_, ?_, ?_⟩
    · simpa [Progress.chars, waiting] using fed
    · simp [waiting, passed.text, unifyLineEnds, unifyLoop]
    · simp [waiting]
  · obtain ⟨joined, returns⟩ := passed.raw waiting
    have still : (progress.heldReturn && decoded.isEmpty) = false := by
      simpa using waiting
    rw [joined] at fed
    rw [← Progress.raw, still, Bool.or_false]
    by_cases closed : (progress.raw decoded).getLast? = some '\r'
    · obtain ⟨short, shape⟩ := List.getLast?_eq_some_iff.mp closed
      have apart : body.getLast? = some '\r' → short.head? ≠ some '\n' := by
        intro returned
        have first := returns returned
        cases short with
        | nil => simp
        | cons c short =>
            rw [shape] at first
            cases first
            simp
      refine ⟨_, body ++ short, rfl, ?_, ?_, ?_⟩
      · simpa [Progress.chars, closed, shape] using fed
      · simp [shape, passed.text, unify_append apart]
      · simp [closed]
    · have apart : body.getLast? = some '\r' → (progress.raw decoded).head? ≠ some '\n' := by
        intro returned
        rw [returns returned]
        decide
      refine ⟨_, body ++ progress.raw decoded, rfl, ?_, ?_, ?_⟩
      · simpa [Progress.chars, closed] using fed
      · simp [closed, passed.text, unify_append apart]
      · intro _
        by_cases none : progress.raw decoded = []
        · intro returned
          rw [none, List.append_nil] at returned
          have first := returns returned
          rw [none] at first
          cases first
        · rwa [List.getLast?_append_of_ne_nil _ none]

section

variable {progress : Progress} {bytes rest : Bytes} {body : Text}

theorem Progress.Passed.pieces (passed : progress.Passed bytes body) (rest : Bytes) :
    Utf8.pieces (bytes ++ rest) = (progress.chars body).map .scalar ++
      ((Utf8.feed progress.state [] rest).2.reverse ++
        Utf8.finish (Utf8.feed progress.state [] rest).1) := by
  simp only [Utf8.pieces, Utf8.feed_append, passed.fed]
  rw [Utf8.feed_done]
  simp

theorem Progress.Passed.text_ahead (passed : progress.Passed bytes body) (rest : Bytes) :
    progress.text <+: unifyLineEnds (Utf8.decodeLossy (bytes ++ rest)) := by
  have lossy (text : Text) : (text.map Utf8.Piece.scalar).map Utf8.Piece.lossy = text := by
    simp [Function.comp_def, Utf8.Piece.lossy]
  rw [Utf8.decodeLossy, passed.pieces, List.map_append, lossy, Progress.chars, List.append_assoc,
    unify_append, passed.text]
  · exact List.prefix_append _ _
  · intro returned
    cases held : progress.heldReturn with
    | false => exact absurd returned (passed.held held)
    | true => simp

theorem Progress.Passed.close (passed : progress.Passed bytes body) :
    progress.close = (Utf8.decode? bytes).map unifyLineEnds := by
  have pieced := passed.pieces []
  simp only [List.append_nil, Utf8.feed, List.reverse_nil, List.nil_append] at pieced
  cases state : progress.state with
  | start =>
      have read : Utf8.decode? bytes = some (progress.chars body) := by
        rw [Utf8.decode?, pieced, state, scalars_eq_some]
        simp [Utf8.finish]
      rw [read, Progress.close, if_pos state, passed.text]
      cases held : progress.heldReturn with
      | false => simp [Progress.chars, held]
      | true =>
          have returned : unifyLineEnds (body ++ ['\r']) = unifyLineEnds body ++ ['\n'] :=
            unify_append (by simp)
          simp [Progress.chars, held, returned]
  | inside held value low high owed =>
      have broken : Utf8.decode? bytes = none := by
        rw [Utf8.decode?, pieced, state, scalars_eq_none]
        exact ⟨held.reverse, by simp [Utf8.finish]⟩
      rw [broken, Progress.close, if_neg (by simp [state])]
      rfl

theorem Progress.Passed.refused (passed : progress.Passed bytes body) {block : Bytes}
    (refused : (Utf8.feed progress.state [] block).2.reverse.mapM Utf8.Piece.scalar? = none)
    (later : Bytes) : Utf8.decode? (bytes ++ (block ++ later)) = none := by
  obtain ⟨held, broken⟩ := scalars_eq_none.mp refused
  rw [Utf8.decode?, passed.pieces, scalars_eq_none, Utf8.feed_append, Utf8.feed_done]
  refine ⟨held, ?_⟩
  simp only [List.mem_append, List.mem_reverse] at broken ⊢
  tauto

/-- What the loop reads of some bytes, from any point on. -/
def Reads (limit : Nat) (whole : Bytes) (result : Option Text) : Prop :=
  let lossy := unifyLineEnds (Utf8.decodeLossy whole)
  result = some (lossy.take limit) ∧ (Utf8.decode? whole = none → limit ≤ lossy.length) ∨
    result = none ∧ Utf8.decode? whole = none

theorem decode_lossy_of_decode {whole : Bytes} {text : Text}
    (decoded : Utf8.decode? whole = some text) : Utf8.decodeLossy whole = text := by
  rw [Utf8.decodeLossy, scalars_eq_some.mp decoded]
  simp [Function.comp_def, Utf8.Piece.lossy]

theorem Reads.of_close {limit : Nat} (passed : progress.Passed bytes body)
    (short : progress.text.length < limit) : Reads limit bytes progress.close := by
  rw [passed.close]
  cases decoded : Utf8.decode? bytes with
  | none => exact Or.inr ⟨rfl, decoded⟩
  | some text =>
      have bounded : (unifyLineEnds text).length ≤ limit := by
        have closed := passed.close
        rw [decoded, Option.map_some, Progress.close, Option.ite_none_right_eq_some,
          Option.some.injEq] at closed
        rw [← closed.2]
        split
        · rw [List.length_append]
          exact short
        · exact Nat.le_of_lt short
      refine Or.inl ⟨?_, fun none => ?_⟩
      · rw [decode_lossy_of_decode decoded, List.take_of_length_le bounded, Option.map_some]
      · rw [decoded] at none
        cases none

theorem Progress.block_size_pos (progress : Progress) (wanted : Nat) :
    0 < progress.blockSize wanted := by
  have least : 0 < leastBlock := by decide
  exact Nat.lt_of_lt_of_le least (Nat.le_max_left _ _)

theorem read_loop_reads (limit fuel : Nat) (passed : progress.Passed bytes body)
    (enough : rest.length < fuel) :
    Reads limit (bytes ++ rest) (readLoop limit fuel progress rest) := by
  induction fuel generalizing progress bytes rest body with
  | zero => omega
  | succ fuel ih =>
      unfold readLoop
      split
      · next full =>
        have ahead := passed.text_ahead rest
        refine Or.inl ⟨?_, fun _ => Nat.le_trans full ahead.length_le⟩
        obtain ⟨more, shape⟩ := ahead
        rw [← shape, List.take_append_of_le_length full]
      · next unfilled =>
        cases rest with
        | nil =>
            rw [List.append_nil]
            exact .of_close passed (by omega)
        | cons byte rest =>
            dsimp only
            have positive := progress.block_size_pos (limit - progress.text.length)
            generalize progress.blockSize (limit - progress.text.length) = size at positive ⊢
            have whole := List.take_append_drop size (byte :: rest)
            cases read : (Utf8.feed progress.state []
                ((byte :: rest).take size)).2.reverse.mapM Utf8.Piece.scalar? with
            | none =>
                have broken := passed.refused read ((byte :: rest).drop size)
                rw [whole] at broken
                simp only [Progress.addBlock, read]
                exact Or.inr ⟨rfl, broken⟩
            | some decoded =>
                obtain ⟨next, grown, added, further⟩ := passed.add_block (scalars_eq_some.mp read)
                have left : ((byte :: rest).drop size).length < fuel := by
                  rw [List.length_cons] at enough
                  rw [List.length_drop, List.length_cons]
                  omega
                have later := ih further left
                rw [List.append_assoc, whole] at later
                rw [added]
                exact later

/-- Reading in blocks is decoding, making the line ends line feeds, and stopping at the limit. -/
theorem read_reads (limit : Nat) (bytes : Bytes) : Reads limit bytes (read? limit bytes) := by
  have started : Progress.start.Passed [] [] := ⟨rfl, rfl, by simp⟩
  exact read_loop_reads limit (bytes.length + 1) started (Nat.lt_succ_self _)

theorem read_of_decode {limit : Nat} {bytes : Bytes} {text : Text}
    (decoded : Utf8.decode? bytes = some text) :
    read? limit bytes = some ((unifyLineEnds text).take limit) := by
  rcases read_reads limit bytes with ⟨read, -⟩ | ⟨-, broken⟩
  · rw [read, decode_lossy_of_decode decoded]
  · rw [decoded] at broken
    cases broken

theorem broken_of_read {limit : Nat} {bytes : Bytes} (unread : read? limit bytes = none) :
    Utf8.decode? bytes = none := by
  cases decoded : Utf8.decode? bytes with
  | none => rfl
  | some text =>
      rw [read_of_decode decoded] at unread
      cases unread

theorem read_of_broken {limit : Nat} {bytes : Bytes} (broken : Utf8.decode? bytes = none) :
    read? limit bytes = none ∨
      ∃ text, read? limit bytes = some text ∧ text.length = limit ∧
        limit ≤ (unifyLineEnds (Utf8.decodeLossy bytes)).length := by
  rcases read_reads limit bytes with ⟨read, filled⟩ | ⟨refused, -⟩
  · exact Or.inr ⟨_, read, List.length_take_of_le (filled broken), filled broken⟩
  · exact Or.inl refused

theorem read_short_iff {limit : Nat} {bytes : Bytes} {text : Text} :
    read? (limit + 1) bytes = some text ∧ text.length ≤ limit ↔
      ∃ decoded, Utf8.decode? bytes = some decoded ∧ unifyLineEnds decoded = text ∧
        text.length ≤ limit := by
  constructor
  · rintro ⟨read, short⟩
    cases decoded : Utf8.decode? bytes with
    | none =>
        rcases read_of_broken decoded with refused | ⟨other, filled, long, -⟩
        · rw [refused] at read
          cases read
        · rw [filled] at read
          cases read
          omega
    | some characters =>
        rw [read_of_decode decoded, Option.some.injEq] at read
        have bounded : (unifyLineEnds characters).length ≤ limit + 1 := by
          by_contra beyond
          have long := List.length_take_of_le (Nat.le_of_lt (Nat.lt_of_not_le beyond))
          rw [read] at long
          omega
        rw [List.take_of_length_le bounded] at read
        exact ⟨characters, rfl, read, short⟩
  · rintro ⟨decoded, whole, rfl, short⟩
    refine ⟨?_, short⟩
    rw [read_of_decode whole, List.take_of_length_le (Nat.le_succ_of_le short)]

end

end BlankUse.TextFile
