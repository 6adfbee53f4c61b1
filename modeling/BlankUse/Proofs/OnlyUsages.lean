import BlankUse.Proofs.Insertion
import BlankUse.Proofs.OwnLine
import BlankUse.Proofs.UsageRemoval

/-!
What a removal takes besides usages. In the appended form it takes every line from the first `; _ =`
through the last closing, so whatever the author wrote between two usages, or as a discard before
one, goes with them. In the other form it takes usages only, but it also finds one behind an
identifier that ends in `_`. Nothing but usages goes as long as neither happens, and if nothing is
left to remove afterwards, this condition is exact.
-/

namespace BlankUse.Marker

open Byte LineBuffer

/-- Exactly one usage, behind a byte or at the very front: the appended form, or the form with
blanks around, whose `_` does not go on with an identifier. -/
inductive FakeUsage (marker : Marker) (before : Option UInt8) : Bytes → Prop
  | appended (name : Bytes) (nameBytes : ∀ byte ∈ name, isNameByte byte = true) :
      FakeUsage marker before (opening ++ space :: name ++ marker.closing)
  | ownLine (runs : Runs) (apart : ∀ byte ∈ runs.lead.getLast?.or before, ¬ IsWordByte byte) :
      FakeUsage marker before (runs.usage marker)

def Removable (marker : Marker) : Form → Bytes → Prop
  | .appended, piece => ∃ inside, newline ∉ inside ∧ piece = opening ++ inside ++ marker.closing
  | .ownLine, piece => ∃ runs : Runs, piece = runs.usage marker

/-- What goes out of a line is usages end to end, and no usage goes on with an identifier. -/
def Apart (marker : Marker) : Form → Bytes → Prop
  | .appended, code => ∀ line ∈ ofCode code, ∀ before inside after,
      marker.Taken line before inside after →
        Inserted (FakeUsage marker) none [] (opening ++ inside ++ marker.closing)
  | .ownLine, code => ∀ front (runs : Runs) back, code = front ++ (runs.usage marker ++ back) →
      ∀ byte ∈ runs.lead.getLast?.or front.getLast?, ¬ IsWordByte byte

variable {marker : Marker}

/-! Lines that are cut. -/

theorem inserted_appended {fits : Option UInt8 → Bytes → Prop}
    (closingFree : newline ∉ marker.closing) (code : Bytes)
    (each : ∀ line ∈ ofCode code, ∀ before inside after, marker.Taken line before inside after →
      ∀ context, Inserted fits context [] (opening ++ inside ++ marker.closing)) :
    Inserted fits none (Pattern.deleteAll marker.appended code).bytes code := by
  rw [delete_appended closingFree]
  conv => rhs; rw [← to_code_of_code code]
  apply inserted_lines
  intro line member context _
  cases cut : marker.cut? line with
  | none =>
      rw [keptOf, cut]
      exact Inserted.refl context line
  | some kept =>
      obtain ⟨before, inside, after, taken, rfl⟩ := taken_of_cut cut
      have middle := each line member before inside after taken
      have whole := ((Inserted.refl context before).append (middle _)).append
        (Inserted.refl _ after)
      rw [keptOf, cut, Option.getD_some]
      rwa [List.append_nil, ← taken.shape] at whole

/-! Nothing but usages goes. -/

theorem usage_of_match {piece behind : Bytes}
    (matched : marker.ownLine (piece ++ behind) = some piece.length) :
    ∃ runs : Runs, piece = runs.usage marker := by
  obtain ⟨runs, rest, shape, size⟩ := usage_of_own_line marker matched
  exact ⟨runs, (List.append_inj shape size).1⟩

theorem inserted_removable (tool : marker.tool.WordChars) {code : Bytes} {removal : Removal}
    (stripped : marker.strip code = some removal) :
    Inserted (fun _ piece => marker.Removable removal.form piece) none removal.code code := by
  rcases strip_cases stripped with ⟨-, rfl⟩ | ⟨-, rfl⟩
  · apply inserted_appended (closing_newline_free tool)
    intro line member before inside after taken context
    have free := of_code_newline_free code line member
    exact Inserted.single ⟨inside, fun held => free (by simp [taken.shape, held]), rfl⟩
  · exact Pattern.delete_all_inserted (own_line_proper marker) [] code
      fun ahead piece behind _ matched => usage_of_match matched

/-- Usages end to end that begin with an opening may stand anywhere: the first of them is an
appended one, and the others follow a slash. -/
theorem inserted_anywhere {before other : Option UInt8} {rest : Bytes}
    (usages : Inserted (FakeUsage marker) before [] (opening ++ rest)) :
    Inserted (FakeUsage marker) other [] (opening ++ rest) := by
  obtain ⟨piece, later, shape, usage, follows⟩ := usages.first_piece (by simp [opening])
  rw [shape]
  cases usage with
  | appended name nameBytes =>
      refine Inserted.insert (FakeUsage.appended name nameBytes) ?_
      obtain ⟨front, closed⟩ := closing_last marker
      rw [closed, ← List.append_assoc, List.getLast?_concat] at follows ⊢
      exact follows
  | ownLine runs apart =>
      -- The first byte of this form is a blank or `_`, not a semicolon.
      cases led : runs.lead with
      | nil =>
          simp only [Runs.usage, led, opening, List.nil_append, List.cons_append] at shape
          exact absurd (List.cons_eq_cons.mp shape).1 (by decide)
      | cons byte lead =>
          simp only [Runs.usage, led, opening, List.cons_append] at shape
          have blank := runs.leadBlank byte (by simp [led])
          exact absurd (List.cons_eq_cons.mp shape).1.symm (not_semicolon_of_blank blank)

theorem inserted_of_apart (tool : marker.tool.WordChars) {code : Bytes} {removal : Removal}
    (stripped : marker.strip code = some removal) (apart : marker.Apart removal.form code) :
    Inserted (FakeUsage marker) none removal.code code := by
  rcases strip_cases stripped with ⟨-, rfl⟩ | ⟨-, rfl⟩
  · apply inserted_appended (closing_newline_free tool)
    intro line member before inside after taken context
    have usages := apart line member before inside after taken
    rw [List.append_assoc] at usages ⊢
    exact inserted_anywhere usages
  · apply Pattern.delete_all_inserted (own_line_proper marker) [] code
    intro ahead piece behind shape matched
    obtain ⟨runs, rfl⟩ := usage_of_match matched
    exact FakeUsage.ownLine runs (apart ahead runs behind shape)

/-! If nothing is left to remove, the condition is exact. -/

theorem not_usage_of_clean {kept : Bytes} (clean : marker.strip kept = none) (runs : Runs) :
    ¬ runs.usage marker <:+: kept := by
  have quiet := (Pattern.delete_all_count_eq_zero (own_line_proper marker) kept).mp
    ((strip_eq_none_iff marker kept).mp clean).2
  exact (own_line_quiet_iff marker kept).mp quiet runs

theorem FakeUsage.closed {before : Option UInt8} {piece : Bytes}
    (usage : FakeUsage marker before piece) : ∃ front, piece = front ++ marker.closing := by
  cases usage with
  | appended name _ => exact ⟨opening ++ space :: name, rfl⟩
  | ownLine runs _ =>
      exact ⟨runs.lead ++ underscore :: (runs.gap ++ equals :: space :: (runs.name ++ runs.pad)),
        by simp [Runs.usage]⟩

theorem FakeUsage.length_pos {before : Option UInt8} {piece : Bytes}
    (usage : FakeUsage marker before piece) : 0 < piece.length := by
  obtain ⟨front, rfl⟩ := usage.closed
  simp only [List.length_append, closing, List.length_cons]
  omega

theorem FakeUsage.not_into (tool : marker.tool.WordChars) {context : Option UInt8} {piece : Bytes}
    (usage : FakeUsage marker context piece) (runs : Runs) {front tail back : Bytes}
    (same : piece = front ++ tail) (nonempty : tail ≠ []) {last : UInt8}
    (ends : front.getLast? = some last) (word : IsWordByte last) :
    ¬ runs.usage marker <+: tail ++ back := by
  cases usage with
  | ownLine other _ =>
      exact usage_not_inside tool other runs same nonempty
        ⟨last, List.mem_of_getLast? ends, word.not_blank⟩
  | appended name nameBytes =>
      rw [appended_usage_eq name nameBytes] at same
      cases front with
      | nil => cases ends
      | cons first front =>
          obtain ⟨rfl, inner⟩ := List.cons_eq_cons.mp same
          cases front with
          | nil =>
              cases ends
              exact absurd word (by decide)
          | cons second front =>
              rw [List.getLast?_cons_cons] at ends
              exact usage_not_inside tool _ runs inner nonempty
                ⟨last, List.mem_of_getLast? ends, word.not_blank⟩

theorem FakeUsage.not_within (tool : marker.tool.WordChars) {context : Option UInt8} {piece : Bytes}
    (usage : FakeUsage marker context piece) {runs : Runs} {front tail back : Bytes}
    (same : runs.usage marker = front ++ tail) (nonempty : tail ≠ []) (held : underscore ∈ front) :
    ¬ piece <+: tail ++ back := by
  intro starts
  cases usage with
  | ownLine other _ =>
      exact usage_not_inside tool runs other same nonempty ⟨underscore, held, by decide⟩ starts
  | appended name nameBytes =>
      obtain ⟨first, tail, rfl⟩ := List.exists_cons_of_ne_nil nonempty
      obtain ⟨beyond, begins⟩ := starts
      simp only [opening, List.cons_append] at begins
      have semicolonHeld := (List.cons_eq_cons.mp begins).1
      exact usage_semicolon_free tool runs (by simp [same, semicolonHeld])

/-- A usage directly behind an identifier byte is no fake usage, so it is kept. -/
theorem kept_of_joined (tool : marker.tool.WordChars) {runs : Runs} (unled : runs.lead = [])
    {last : UInt8} (word : IsWordByte last) {kept back : Bytes}
    (whole : Inserted (FakeUsage marker) (some last) kept (runs.usage marker ++ back)) :
    runs.usage marker <:+: kept := by
  obtain ⟨inner, shape⟩ : ∃ inner, runs.usage marker = underscore :: inner := by
    simp [Runs.usage, unled]
  rw [shape] at whole ⊢
  generalize joined : underscore :: inner ++ back = code at whole
  cases whole with
  | nil => cases joined
  | @keep _ kept code byte rest =>
      obtain ⟨rfl, rfl⟩ := List.cons_eq_cons.mp joined
      obtain ⟨late, rfl, -⟩ := rest.kept_front (by
        intro context ahead piece behind usage same
        by_contra within
        obtain ⟨tail, rfl⟩ : ahead <+: inner :=
          List.prefix_of_prefix_length_le ⟨piece ++ behind, by simp [same]⟩
            (List.prefix_append inner back) (by omega)
        have nonempty : tail ≠ [] := by
          rintro rfl
          simp at within
        have cut : runs.usage marker = (underscore :: ahead) ++ tail := by simp [shape]
        exact usage.not_within tool cut nonempty (by simp)
          (show piece <+: tail ++ back from ⟨behind, by simpa using same.symm⟩))
      exact (List.prefix_append (underscore :: inner) late).isInfix
  | @insert _ piece kept code usage rest =>
      exfalso
      cases usage with
      | appended name nameBytes =>
          simp only [opening, List.cons_append] at joined
          exact absurd (List.cons_eq_cons.mp joined).1 (by decide)
      | ownLine other apart =>
          cases led : other.lead with
          | nil => exact apart last (by simp [led]) word
          | cons byte lead =>
              simp only [Runs.usage, led, List.cons_append] at joined
              have blank := other.leadBlank byte (by simp [led])
              rw [← (List.cons_eq_cons.mp joined).1] at blank
              exact absurd blank (by decide)

/-- No fake usage lies across the border between an identifier byte and a usage behind it: it would
hold that byte and reach into the other one. -/
theorem FakeUsage.not_across (tool : marker.tool.WordChars) {context : Option UInt8}
    {ahead piece behind : Bytes} (usage : FakeUsage marker context piece) {runs : Runs}
    {front back : Bytes} {byte : UInt8} (ends : front.getLast? = some byte) (word : IsWordByte byte)
    (same : front ++ (runs.usage marker ++ back) = ahead ++ piece ++ behind) :
    (ahead ++ piece).length ≤ front.length ∨ front.length ≤ ahead.length := by
  by_contra across
  rw [not_or, Nat.not_le, Nat.not_le] at across
  have starts : ahead <+: front ++ (runs.usage marker ++ back) :=
    ⟨piece ++ behind, by rw [same, List.append_assoc]⟩
  obtain ⟨gap, rfl⟩ : ahead <+: front :=
    List.prefix_of_prefix_length_le starts (List.prefix_append _ _) (by omega)
  rw [List.append_assoc, List.append_assoc, List.append_cancel_left_eq] at same
  obtain ⟨tail, rfl⟩ : gap <+: piece :=
    List.prefix_of_prefix_length_le ⟨_, same⟩ (List.prefix_append _ _) (by
      simp only [List.length_append] at across
      omega)
  rw [List.append_assoc, List.append_cancel_left_eq] at same
  have gapFilled : gap ≠ [] := by
    rintro rfl
    simp at across
  rw [List.getLast?_append_of_ne_nil _ gapFilled] at ends
  have tailFilled : tail ≠ [] := by
    rintro rfl
    rw [List.append_nil] at across
    omega
  exact usage.not_into tool runs rfl tailFilled ends word ⟨back, same⟩

/-- No usage goes on with an identifier, if what is kept of the code holds no usage. -/
theorem apart_own_line (tool : marker.tool.WordChars) {kept code : Bytes}
    (inserted : Inserted (FakeUsage marker) none kept code)
    (unused : ∀ runs : Runs, ¬ runs.usage marker <:+: kept) : marker.Apart .ownLine code := by
  intro front runs back shape byte member word
  have unled : runs.lead = [] := by
    by_contra led
    obtain ⟨last, ends⟩ := List.getLast?_isSome.mpr led |> Option.isSome_iff_exists.mp
    rw [ends, Option.some_or, Option.mem_some_iff] at member
    have blank := runs.leadBlank last (List.mem_of_getLast? ends)
    rw [member, word.not_blank] at blank
    cases blank
  have ends : front.getLast? = some byte := by simpa [unled] using member
  rw [shape] at inserted
  obtain ⟨early, late, rfl, -, right⟩ :=
    inserted.split fun _ _ _ _ usage same => usage.not_across tool ends word same
  rw [ends] at right
  exact unused runs ((kept_of_joined tool unled word right).trans (List.suffix_append _ _).isInfix)

section

variable {line before inside after : Bytes} {context : Option UInt8} {ahead piece behind : Bytes}

theorem Taken.no_usage_before (tool : marker.tool.WordChars)
    (taken : marker.Taken line before inside after)
    (unused : ∀ runs : Runs, ¬ runs.usage marker <:+: before ++ after)
    (usage : FakeUsage marker context piece) (same : line = ahead ++ piece ++ behind) :
    before.length ≤ ahead.length := by
  cases usage with
  | appended name nameBytes =>
      exact taken.first ahead (space :: name ++ marker.closing ++ behind) (by simp [same])
  | ownLine runs _ =>
      -- It holds no semicolon, so it would end before the opening and be kept.
      by_contra within
      have shape := taken.shape
      have starts : ahead <+: before ++ (opening ++ inside ++ marker.closing ++ after) :=
        ⟨runs.usage marker ++ behind, by
          rw [← List.append_assoc, ← same, shape, List.append_assoc]⟩
      obtain ⟨tail, rfl⟩ : ahead <+: before :=
        List.prefix_of_prefix_length_le starts (List.prefix_append _ _) (by omega)
      have nonempty : tail ≠ [] := by
        rintro rfl
        simp at within
      have follows : ahead ++ (tail ++ (opening ++ inside ++ marker.closing ++ after)) =
          ahead ++ (runs.usage marker ++ behind) := by
        simpa using shape.symm.trans same
      have reaches : runs.usage marker <+:
          tail ++ (opening ++ inside ++ marker.closing ++ after) :=
        ⟨behind, (List.append_cancel_left follows).symm⟩
      have ends := prefix_of_prefix_append nonempty (by
        intro byte head
        obtain rfl : semicolon = byte := by simpa [opening] using head
        exact fun member => usage_semicolon_free tool runs (List.mem_of_mem_tail member)) reaches
      apply unused runs
      rw [List.append_assoc]
      exact ends.isInfix.trans ⟨ahead, after, by simp⟩

theorem Taken.no_usage_behind (taken : marker.Taken line before inside after)
    (usage : FakeUsage marker context piece) (same : line = ahead ++ piece ++ behind) :
    after.length ≤ behind.length := by
  obtain ⟨front, rfl⟩ := usage.closed
  exact taken.last (ahead ++ front) behind (by simp [same])

/-- If fake usages put into what is kept of a line give the line, and what is kept holds no usage,
then what went was usages end to end. -/
theorem usages_of_taken (tool : marker.tool.WordChars)
    (taken : marker.Taken line before inside after)
    (unused : ∀ runs : Runs, ¬ runs.usage marker <:+: before ++ after)
    (inserted : Inserted (FakeUsage marker) context (before ++ after) line) :
    Inserted (FakeUsage marker) none [] (opening ++ inside ++ marker.closing) := by
  have shape := taken.shape
  rw [shape, List.append_assoc] at inserted
  obtain ⟨late, kept, behind⟩ := inserted.kept_front (by
    intro context ahead piece behind usage same
    exact taken.no_usage_before tool unused usage (by rw [shape, List.append_assoc, same]))
  obtain rfl : after = late := List.append_cancel_left kept
  obtain ⟨early, late, whole, middle, rest⟩ := behind.split (by
    intro context ahead piece behind usage same
    have bound : after.length ≤ behind.length :=
      taken.no_usage_behind usage (show line = before ++ ahead ++ piece ++ behind by
        rw [shape, List.append_assoc, same]
        simp)
    have sizes := congrArg List.length same
    simp only [List.length_append] at sizes ⊢
    omega)
  rw [← List.append_nil after] at rest
  obtain ⟨nothing, remains, -⟩ := rest.kept_front (by
    intro context ahead piece behind usage same
    have size := usage.length_pos
    have bound : after.length ≤ behind.length :=
      taken.no_usage_behind usage
        (show line = before ++ (opening ++ inside ++ marker.closing) ++ ahead ++ piece ++ behind by
          rw [List.append_nil] at same
          rw [shape, same]
          simp)
    have sizes := congrArg List.length same
    simp only [List.length_append, List.length_nil] at sizes
    omega)
  have empty : early = [] := by
    have sizes := congrArg List.length whole
    rw [remains] at sizes
    simp only [List.length_append] at sizes
    exact List.length_eq_zero_iff.mp (by omega)
  rw [empty, List.append_assoc] at middle
  rw [List.append_assoc]
  exact inserted_anywhere middle

end

/-- What goes out of the lines is usages end to end, if what is kept of the code holds no usage. -/
theorem apart_appended (tool : marker.tool.WordChars) {code : Bytes}
    (inserted : Inserted (FakeUsage marker) none
      (Pattern.deleteAll marker.appended code).bytes code)
    (unused : ∀ runs : Runs, ¬ runs.usage marker <:+: (Pattern.deleteAll marker.appended code).bytes) :
    marker.Apart .appended code := by
  have free := of_code_newline_free code
  have keptFree : ∀ line ∈ ofCode code, newline ∉ marker.keptOf line := fun line member =>
    kept_of_free (free line member)
  rw [delete_appended (closing_newline_free tool)] at inserted unused
  have counts : (toCode ((ofCode code).map marker.keptOf)).count newline =
      (toCode (ofCode code)).count newline := by
    obtain ⟨line, rest, lines⟩ := List.exists_cons_of_ne_nil (of_code_ne_nil code)
    rw [lines] at free keptFree ⊢
    rw [count_newline_to_code line rest free, List.map_cons, count_newline_to_code, List.length_map]
    simpa using keptFree
  conv at inserted => rhs; rw [← to_code_of_code code]
  have each := inserted_line marker.keptOf (ofCode code) free keptFree
    (fun context piece fit => ⟨List.length_pos_iff.mp fit.1.length_pos, fit.2⟩)
    (inserted.free_of_count counts)
  intro line member before inside after taken
  obtain ⟨context, own⟩ := each line member
  have kept : marker.keptOf line = before ++ after := by
    rw [keptOf, cut_of_taken taken]
    rfl
  rw [kept] at own
  refine usages_of_taken tool taken ?_ (own.mono fun context piece fit => fit.1)
  intro runs within
  have lineKept : before ++ after ∈ (ofCode code).map marker.keptOf :=
    List.mem_map.mpr ⟨line, member, kept⟩
  exact unused runs (within.trans (infix_to_code lineKept))

/-- A removal takes pieces of its form and keeps all else. If the code is apart for the form, each of
them is made of fake usages, so nothing but fake usages is lost. If nothing is left to remove, nothing
but fake usages was lost only if the code was apart. -/
theorem strip_loses_only_usages (marker : Marker) (tool : marker.tool.WordChars) (code : Bytes)
    (removal : Removal) (stripped : marker.strip code = some removal) :
    Inserted (fun _ piece => marker.Removable removal.form piece) none removal.code code ∧
    (marker.Apart removal.form code → Inserted (FakeUsage marker) none removal.code code) ∧
    (marker.strip removal.code = none → Inserted (FakeUsage marker) none removal.code code →
      marker.Apart removal.form code) := by
  refine ⟨inserted_removable tool stripped, inserted_of_apart tool stripped, ?_⟩
  intro clean inserted
  have unused := not_usage_of_clean clean
  rcases strip_cases stripped with ⟨-, rfl⟩ | ⟨-, rfl⟩
  · exact apart_appended tool inserted unused
  · exact apart_own_line tool inserted unused

/-- A discard of the author's own is lost with the usage behind it. -/
theorem strip_loses_discard :
    let marker : Marker := ⟨['g', 'o', 'u', 's', 'e']⟩
    let code := ascii "v; _ = w; _ = v /* TODO: gouse */".toList
    marker.strip code = some ⟨.appended, 1, ascii ['v']⟩ ∧
      ¬ Inserted (FakeUsage marker) none (ascii ['v']) code := by
  intro marker code
  have stripped : marker.strip code = some ⟨.appended, 1, ascii ['v']⟩ := by decide
  refine ⟨stripped, ?_⟩
  intro inserted
  have apart := (strip_loses_only_usages marker (by decide) code _ stripped).2.2 (by decide) inserted
  have taken : marker.Taken code (ascii ['v']) (ascii " w; _ = v".toList) [] := by
    refine ⟨by decide, ?_, by simp⟩
    intro front back shape
    cases front with
    | nil => exact absurd (List.cons_eq_cons.mp shape).1 (by decide)
    | cons first front => simp [ascii]
  have usages := apart code (by decide) _ _ _ taken
  obtain ⟨piece, rest, shape, usage, -⟩ := usages.first_piece (by simp [opening])
  cases usage with
  | appended name nameBytes =>
      -- The name would have to end at the semicolon, where no closing stands.
      have read := (name_width_eq_some marker (ascii "w; _ = v".toList ++ marker.closing) _).mpr
        ⟨name, [], rest, by simpa [opening, ascii, space] using shape, nameBytes, by simp, rfl⟩
      have missing : marker.nameWidth (ascii "w; _ = v".toList ++ marker.closing) = none := by decide
      rw [missing] at read
      cases read
  | ownLine runs _ =>
      have read := own_line_usage marker runs rest
      have missing : marker.ownLine
          (opening ++ ascii " w; _ = v".toList ++ marker.closing) = none := by decide
      rw [← shape, missing] at read
      cases read

end BlankUse.Marker
