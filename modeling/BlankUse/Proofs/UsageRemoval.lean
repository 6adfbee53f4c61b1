import BlankUse.Proofs.Edits
import BlankUse.Proofs.LineCut
import BlankUse.Proofs.WordBytes

/-!
Adding usages and removing them again. On a line with usages the cut runs from the first `; _ =` to
the end of the last usage. Where the line held no `; _ =` before, that is exactly what was added;
where it did, the cut takes the old text from there on as well. Lines without usages are left alone,
since the code had nothing to remove.
-/

namespace BlankUse.Marker

open Byte LineBuffer

/-- What the cut leaves of a line that has got usages. -/
def remnant (line : Bytes) : Bytes :=
  match (body line).dropInfix? opening with
  | none => line
  | some (before, _) => before ++ ending line

theorem opening_infix_body (line : Bytes) : opening <:+: body line ↔ opening <:+: line := by
  constructor
  · intro within
    rw [← body_append_ending line]
    exact within.trans (List.prefix_append _ _).isInfix
  · intro within
    rw [← body_append_ending line] at within
    rcases ending_cases line with empty | closed
    · simpa [empty] using within
    · rw [closed] at within
      rcases List.infix_concat_iff.mp within with ⟨front, atEnd⟩ | inside
      · have last := congrArg List.getLast? atEnd
        simp [opening, carriageReturn, equals] at last
      · exact inside

theorem remnant_eq_iff (line : Bytes) : remnant line = line ↔ ¬ opening <:+: line := by
  unfold remnant
  rw [← opening_infix_body]
  split
  · next absent =>
    simp [drop_infix_eq_none.mp absent]
  · next before behind found =>
    obtain ⟨shape, -⟩ := drop_infix_eq_some.mp found
    have present : opening <:+: body line := ⟨before, behind, shape.symm⟩
    simp only [present, not_true_eq_false, iff_false]
    intro same
    have sizes := congrArg List.length ((body_append_ending line).trans same.symm)
    rw [shape] at sizes
    simp [opening] at sizes
    omega

theorem remnant_subset (line : Bytes) : remnant line ⊆ line := by
  unfold remnant
  split
  · exact List.Subset.refl line
  · next before behind found =>
    obtain ⟨shape, -⟩ := drop_infix_eq_some.mp found
    intro byte member
    rw [← body_append_ending line, shape]
    rcases List.mem_append.mp member with early | late
    · simp [early]
    · simp [late]

variable {marker : Marker}

theorem usages_shape (marker : Marker) (names : List Text) (nonempty : names ≠ []) :
    ∃ inside, names.flatMap marker.render = opening ++ (inside ++ marker.closing) := by
  induction names with
  | nil => exact absurd rfl nonempty
  | cons name rest ih =>
      cases rest with
      | nil => exact ⟨space :: Utf8.encode name, by simp [render]⟩
      | cons second rest =>
          obtain ⟨inside, later⟩ := ih (by simp)
          refine ⟨space :: Utf8.encode name ++ marker.closing ++ opening ++ inside, ?_⟩
          rw [List.flatMap_cons, later, render]
          simp

theorem after_last_ending (front line : Bytes) :
    afterLast marker.closing (front ++ marker.closing ++ ending line) = some (ending line) := by
  refine after_last_eq_some.mpr ⟨⟨front, rfl⟩, ?_⟩
  intro ahead rest shape
  rcases ending_cases line with empty | closed
  · simp [empty]
  · rw [closed] at shape ⊢
    cases rest with
    | nil =>
        -- The closing does not end in a carriage return.
        obtain ⟨inner, slashed⟩ := closing_last marker
        have last := congrArg List.getLast? shape
        simp [slashed, carriageReturn, slash] at last
    | cons byte rest => simp

/-- A line that has got usages is cut, and what is left does not depend on the usages. -/
theorem cut_with_usages (names : List Text) (nonempty : names ≠ []) (line : Bytes) :
    marker.cut? (appendBeforeReturn (names.flatMap marker.render) line) = some (remnant line) := by
  obtain ⟨inside, shape⟩ := usages_shape marker names nonempty
  rw [append_before_return_eq, shape]
  apply cut_eq_some.mpr
  unfold remnant
  split
  · next absent =>
    refine ⟨body line, inside ++ marker.closing ++ ending line, ending line, ?_, ?_, ?_⟩
    · have border := drop_infix_border (drop_infix_eq_none.mp absent) opening_head_once
        (inside ++ marker.closing ++ ending line)
      simpa using border
    · exact after_last_ending inside line
    · exact body_append_ending line
  · next before behind found =>
    refine ⟨before, behind ++ opening ++ inside ++ marker.closing ++ ending line, ending line,
      ?_, ?_, rfl⟩
    · have first := drop_infix_append found (opening ++ inside ++ marker.closing ++ ending line)
      simpa using first
    · exact after_last_ending (behind ++ opening ++ inside) line

theorem kept_of_usages (names : List Text) {line : Bytes} (uncut : marker.cut? line = none) :
    marker.keptOf (appendBeforeReturn (names.flatMap marker.render) line) =
      if names = [] then line else remnant line := by
  split
  · next empty =>
    rw [empty, List.flatMap_nil, append_before_return_nil, keptOf, uncut]
    rfl
  · next nonempty =>
    rw [keptOf, cut_with_usages names nonempty]
    rfl

theorem usages_line_free {names : List Text} {line : Bytes} (lineFree : newline ∉ line)
    (namesFree : ∀ name ∈ names, newline ∉ marker.render name) :
    newline ∉ appendBeforeReturn (names.flatMap marker.render) line := by
  rw [← body_append_ending line] at lineFree
  rw [append_before_return_eq]
  simp only [List.mem_append, List.mem_flatMap, not_or, not_exists, not_and] at lineFree ⊢
  exact ⟨⟨lineFree.1, namesFree⟩, lineFree.2⟩

/-! The whole code. -/

theorem strip_eq_none_iff (marker : Marker) (code : Bytes) :
    marker.strip code = none ↔
      (Pattern.deleteAll marker.appended code).count = 0 ∧
        (Pattern.deleteAll marker.ownLine code).count = 0 := by
  simp only [strip, Option.or_eq_none_iff, remove]
  constructor
  · rintro ⟨first, second⟩
    constructor
    · by_contra counted
      simp [counted] at first
    · by_contra counted
      simp [counted] at second
  · rintro ⟨first, second⟩
    simp [first, second]

theorem strip_of_appended (code : Bytes)
    (counted : (Pattern.deleteAll marker.appended code).count ≠ 0) :
    marker.strip code = some ⟨.appended, (Pattern.deleteAll marker.appended code).count,
      (Pattern.deleteAll marker.appended code).bytes⟩ := by
  simp [strip, remove, counted]

theorem strip_of_own_line (code : Bytes)
    (unappended : (Pattern.deleteAll marker.appended code).count = 0)
    (counted : (Pattern.deleteAll marker.ownLine code).count ≠ 0) :
    marker.strip code = some ⟨.ownLine, (Pattern.deleteAll marker.ownLine code).count,
      (Pattern.deleteAll marker.ownLine code).bytes⟩ := by
  simp [strip, remove, unappended, counted]

theorem strip_cases {code : Bytes} {removal : Removal} (stripped : marker.strip code = some removal) :
    ((Pattern.deleteAll marker.appended code).count ≠ 0 ∧
        removal = ⟨.appended, (Pattern.deleteAll marker.appended code).count,
          (Pattern.deleteAll marker.appended code).bytes⟩) ∨
      ((Pattern.deleteAll marker.appended code).count = 0 ∧
        removal = ⟨.ownLine, (Pattern.deleteAll marker.ownLine code).count,
          (Pattern.deleteAll marker.ownLine code).bytes⟩) := by
  by_cases uncounted : (Pattern.deleteAll marker.appended code).count = 0
  · right
    refine ⟨uncounted, ?_⟩
    simp only [strip, remove, uncounted, if_true, Option.none_or] at stripped
    split at stripped
    · cases stripped
    · exact (Option.some.inj stripped).symm
  · left
    rw [strip_of_appended code uncounted] at stripped
    exact ⟨uncounted, (Option.some.inj stripped).symm⟩

theorem uncut_of_clean (closingFree : newline ∉ marker.closing) {code : Bytes}
    (clean : marker.strip code = none) : ∀ line ∈ ofCode code, marker.cut? line = none := by
  have quiet := (Pattern.delete_all_count_eq_zero marker.appended_proper code).mp
    ((strip_eq_none_iff marker code).mp clean).1
  exact (appended_quiet_iff closingFree code).mp quiet

def withUsages (marker : Marker) (names : Nat → List Text) (lines : List Bytes) : List Bytes :=
  lines.mapIdx fun index line => appendBeforeReturn ((names index).flatMap marker.render) line

def remnants (names : Nat → List Text) (lines : List Bytes) : List Bytes :=
  lines.mapIdx fun index line => if names index = [] then line else remnant line

theorem kept_with_usages (names : Nat → List Text) (lines : List Bytes)
    (uncut : ∀ line ∈ lines, marker.cut? line = none) :
    (marker.withUsages names lines).map marker.keptOf = remnants names lines := by
  apply List.ext_getElem?
  intro index
  simp only [withUsages, remnants, List.getElem?_map, List.getElem?_mapIdx, Option.map_map]
  cases found : lines[index]? with
  | none => rfl
  | some line =>
      simp only [Option.map_some, Function.comp_apply, Option.some.injEq]
      exact kept_of_usages (names index) (uncut line (List.mem_of_getElem? found))

theorem with_usages_free (names : Nat → List Text) (lines : List Bytes)
    (free : ∀ line ∈ lines, newline ∉ line)
    (namesFree : ∀ index, ∀ name ∈ names index, newline ∉ marker.render name) :
    ∀ line ∈ marker.withUsages names lines, newline ∉ line := by
  intro marked member
  obtain ⟨index, bounded, rfl⟩ := List.mem_mapIdx.mp member
  exact usages_line_free (free lines[index] (List.getElem_mem bounded)) (namesFree index)

/-- Code whose lines have got usages is stripped in the appended form, and its lines are cut. -/
theorem strip_with_usages (closingFree : newline ∉ marker.closing) (code : Bytes)
    (clean : marker.strip code = none) (names : Nat → List Text)
    (namesFree : ∀ index, ∀ name ∈ names index, newline ∉ marker.render name)
    (touched : ∃ index < (ofCode code).length, names index ≠ []) :
    ∃ count, marker.strip (toCode (marker.withUsages names (ofCode code))) =
      some ⟨.appended, count, toCode (remnants names (ofCode code))⟩ := by
  have uncut := uncut_of_clean closingFree clean
  have free := with_usages_free names (ofCode code) (of_code_newline_free code) namesFree
  have deleted := delete_appended closingFree (toCode (marker.withUsages names (ofCode code)))
  rw [of_code_to_code _ (by simp [withUsages, of_code_ne_nil]) free,
    kept_with_usages names _ uncut] at deleted
  have counted : (Pattern.deleteAll marker.appended
      (toCode (marker.withUsages names (ofCode code)))).count ≠ 0 := by
    rw [deleted]
    obtain ⟨index, bounded, nonempty⟩ := touched
    apply Nat.pos_iff_ne_zero.mp
    apply List.countP_pos_iff.mpr
    refine ⟨_, List.mem_mapIdx.mpr ⟨index, bounded, rfl⟩, ?_⟩
    rw [cut_with_usages _ nonempty]
    rfl
  have stripped := strip_of_appended _ counted
  rw [deleted] at stripped
  exact ⟨_, stripped⟩

theorem of_code_remnants (names : Nat → List Text) (code : Bytes) :
    ofCode (toCode (remnants names (ofCode code))) = remnants names (ofCode code) := by
  apply of_code_to_code
  · simp [remnants, of_code_ne_nil]
  · intro left member
    obtain ⟨index, bounded, rfl⟩ := List.mem_mapIdx.mp member
    have lineFree := of_code_newline_free code _ (List.getElem_mem bounded)
    split
    · exact lineFree
    · exact fun inside => lineFree (remnant_subset _ inside)

/-- The cut lines are the old lines exactly when no line with usages held an opening before. -/
theorem remnants_eq_iff (names : Nat → List Text) (lines : List Bytes) :
    remnants names lines = lines ↔
      ∀ index line, lines[index]? = some line → names index ≠ [] → ¬ opening <:+: line := by
  rw [List.ext_getElem?_iff]
  simp only [remnants, List.getElem?_mapIdx]
  apply forall_congr'
  intro index
  cases found : lines[index]? with
  | none => simp
  | some line =>
      simp only [Option.map_some, Option.some.injEq]
      by_cases empty : names index = []
      · simp [empty]
      · simp [empty, remnant_eq_iff]

theorem to_code_remnants_eq_iff (names : Nat → List Text) (code : Bytes) :
    toCode (remnants names (ofCode code)) = code ↔
      ∀ index line, (ofCode code)[index]? = some line → names index ≠ [] → ¬ opening <:+: line := by
  rw [← remnants_eq_iff]
  constructor
  · intro equal
    rw [← of_code_remnants, equal]
  · intro equal
    rw [equal, to_code_of_code]

theorem render_free {name : Text} (tool : marker.tool.WordChars) (word : name.WordChars) :
    newline ∉ marker.render name := by
  have closingFree := closing_newline_free tool
  have nameFree : newline ∉ Utf8.encode name := fun inside =>
    absurd (word.bytes newline inside) (by decide)
  have openingFree := opening_free
  simp only [render, List.mem_append, List.mem_cons, not_or]
  exact ⟨⟨openingFree, by decide, nameFree⟩, closingFree⟩

/-- Usages that were added to code with nothing to remove are removed again, in the appended form
and line by line. The code comes back exactly when no line that got a usage held `; _ =` before. -/
theorem strip_appended_usages (marker : Marker) (tool : marker.tool.WordChars) (code : Bytes)
    (clean : marker.strip code = none) (findings : List Finding) (found : findings ≠ [])
    (words : ∀ finding ∈ findings, finding.name.WordChars)
    (inside : ∀ finding ∈ findings, Inside (ofCode code) finding.line) :
    ∃ lines count restored,
      appendUsages marker findings (ofCode code) = ⟨lines, none⟩ ∧
      marker.strip (toCode lines) = some ⟨.appended, count, restored⟩ ∧
      (ofCode restored).length = (ofCode code).length ∧
      (restored = code ↔ ∀ finding ∈ findings, ∀ line,
        (ofCode code)[finding.line.toNat]? = some line → ¬ opening <:+: line) := by
  have closingFree := closing_newline_free tool
  have namesFree : ∀ index, ∀ name ∈ namesOn findings index, newline ∉ marker.render name := by
    intro index name member
    obtain ⟨finding, named, rfl⟩ := List.mem_map.mp member
    exact render_free tool (words finding (List.mem_of_mem_filter named))
  have named : ∀ index,
      namesOn findings index ≠ [] ↔ ∃ finding ∈ findings, finding.line = index := by
    intro index
    simp [namesOn]
  obtain ⟨first, member⟩ := List.exists_mem_of_ne_nil findings found
  have touched : ∃ index < (ofCode code).length, namesOn findings index ≠ [] := by
    obtain ⟨index, bounded, atLine⟩ := (inside_iff _ _).mp (inside first member)
    exact ⟨index, bounded, (named index).mpr ⟨first, member, atLine⟩⟩
  obtain ⟨count, stripped⟩ := strip_with_usages closingFree code clean _ namesFree touched
  refine ⟨_, count, _, append_usages_of_inside marker findings _ inside, stripped, ?_, ?_⟩
  · rw [of_code_remnants]
    simp [remnants]
  · rw [to_code_remnants_eq_iff]
    constructor
    · intro unheld finding member line atLine
      obtain ⟨index, -, same⟩ := (inside_iff _ _).mp (inside finding member)
      rw [same, Int.toNat_natCast] at atLine
      exact unheld index line atLine ((named index).mpr ⟨finding, member, same⟩)
    · intro unheld index line atLine touched
      obtain ⟨finding, member, same⟩ := (named index).mp touched
      exact unheld finding member line (by rwa [same, Int.toNat_natCast])

/-- Two usages on a line that ends in a carriage return and one on a line that held an opening. -/
theorem strip_appended_usages_held :
    let marker : Marker := ⟨['g', 'o', 'u', 's', 'e']⟩
    let code := ascii ['a', '\r', '\n', 'b', ';', ' ', '_', ' ', '=', ' ', 'c']
    let findings : List Finding := [⟨['v'], 0⟩, ⟨['x'], 1⟩, ⟨['w'], 0⟩]
    marker.strip code = none ∧ ∃ lines count restored,
      appendUsages marker findings (ofCode code) = ⟨lines, none⟩ ∧
      marker.strip (toCode lines) = some ⟨.appended, count, restored⟩ ∧
      (ofCode restored).length = (ofCode code).length ∧
      (restored = code ↔ ∀ finding ∈ findings, ∀ line,
        (ofCode code)[finding.line.toNat]? = some line → ¬ opening <:+: line) :=
  ⟨by decide, strip_appended_usages ⟨['g', 'o', 'u', 's', 'e']⟩ (by decide) _ (by decide)
    [⟨['v'], 0⟩, ⟨['x'], 1⟩, ⟨['w'], 0⟩] (by simp) (by decide) (by decide)⟩

end BlankUse.Marker
