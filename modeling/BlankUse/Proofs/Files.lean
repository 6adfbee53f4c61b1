import BlankUse.FileSystem
import BlankUse.Proofs.Lines
import Mathlib.Data.List.Basic

/-!
What is found in a file system after something is put into it or removed from it. Where only the
contents of files change, every path leads to the same location as before. A path leads nowhere for
one of three reasons, and the names on the way to where it leads are its own and those above its start.
-/

namespace BlankUse

namespace Path

theorem has_null_iff (text : Text) : hasNull text = true ↔ Char.ofNat 0 ∈ text := by
  simp [hasNull]

theorem has_null_append (front back : Text) :
    hasNull (front ++ back) = true ↔ hasNull front = true ∨ hasNull back = true := by
  simp [has_null_iff]

theorem has_null_below {directory name : Text} (held : hasNull (below directory name) = true) :
    hasNull directory = true ∨ hasNull name = true := by
  unfold below at held
  split at held
  · exact Or.inr held
  · split at held
    · exact (has_null_append _ _).mp held
    · simpa [has_null_iff] using held

theorem has_null_join {names : List Text} (held : hasNull (joinNames names) = true) :
    ∃ name ∈ names, hasNull name = true := by
  simp only [has_null_iff] at held ⊢
  exact (mem_intercalate_iff (by decide)).mp held

theorem has_null_of_piece {text name : Text} (cut : name ∈ splitOn '/' text)
    (held : hasNull name = true) : hasNull text = true := by
  rw [has_null_iff] at held ⊢
  rw [← @List.intercalate_splitOn Char text _ _ '/', mem_intercalate_iff (by decide), ← split_on_eq]
  exact ⟨name, cut, held⟩

end Path

namespace FileSystem

theorem lookup_replaced (entries : List (Location × Entry)) (location other : Location)
    (entry : Entry) :
    (entries.map fun known => if known.1 == location then (location, entry) else known).lookup
        other =
      if other = location then (entries.lookup location).map fun _ => entry
      else entries.lookup other := by
  simp only [beq_iff_eq]
  induction entries with
  | nil => simp
  | cons known rest ih =>
      obtain ⟨place, held⟩ := known
      rw [List.map_cons]
      by_cases asked : other = location
      · subst asked
        rw [if_pos rfl] at ih ⊢
        by_cases same : place = other
        · simp [same]
        · have passed : (other == place) = false := by simpa using Ne.symm same
          simp [List.lookup_cons, same, passed, ih]
      · rw [if_neg asked] at ih ⊢
        by_cases same : place = location
        · have passed : (other == location) = false := by simpa using asked
          simp [List.lookup_cons, same, passed, ih]
        · simp [List.lookup_cons, same, ih]

theorem find_put (system : FileSystem) {location : Location} (below : location ≠ []) (entry : Entry)
    (other : Location) :
    (system.put location entry).find? other =
      if other = location then some entry else system.find? other := by
  have under : ¬ location.isEmpty = true := by simpa using below
  unfold put
  split
  · next present =>
    unfold find? at present ⊢
    rw [if_neg under] at present
    obtain ⟨old, found⟩ := Option.isSome_iff_exists.mp present
    rw [lookup_replaced, found]
    by_cases same : other = location
    · simp [same, under]
    · simp [same]
  · next absent =>
    unfold find? at absent ⊢
    rw [if_neg under] at absent
    have missing := Option.not_isSome_iff_eq_none.mp absent
    rw [List.lookup_append]
    by_cases same : other = location
    · simp [same, under, missing]
    · have passed : (other == location) = false := by simpa using same
      simp [same, passed, List.lookup_cons]

theorem put_bars (system : FileSystem) (location : Location) (entry : Entry) :
    (system.put location entry).bars = system.bars := by
  unfold put
  split <;> rfl

/-- The same files and directories in the same places, though the files may hold something else. -/
def Alike (first second : FileSystem) : Prop :=
  ∀ location, second.find? location = first.find? location ∨
    ∃ old new, first.find? location = some (.file old) ∧ second.find? location = some (.file new)

section

variable {first second third : FileSystem}

theorem Alike.refl (system : FileSystem) : Alike system system := fun _ => Or.inl rfl

theorem Alike.trans (former : Alike first second) (latter : Alike second third) :
    Alike first third := by
  intro location
  rcases latter location with same | ⟨old, new, was, is⟩
  · rw [same]
    exact former location
  · rcases former location with kept | ⟨older, _, wasBefore, _⟩
    · exact Or.inr ⟨old, new, kept ▸ was, is⟩
    · exact Or.inr ⟨older, new, wasBefore, is⟩

theorem Alike.directory (alike : Alike first second) (location : Location) :
    second.find? location = some .directory ↔ first.find? location = some .directory := by
  rcases alike location with same | ⟨old, new, was, is⟩
  · rw [same]
  · simp [was, is]

theorem Alike.present (alike : Alike first second) (location : Location) :
    (second.find? location).isSome = (first.find? location).isSome := by
  rcases alike location with same | ⟨old, new, was, is⟩
  · rw [same]
  · rw [was, is, Option.isSome_some, Option.isSome_some]

theorem Alike.walk (alike : Alike first second) (here : Location) (names : List Text) :
    second.walk here names = first.walk here names := by
  induction names generalizing here with
  | nil => rfl
  | cons name rest ih =>
      have blocked : (second.find? here != some .directory) = (first.find? here != some .directory) := by
        rw [Bool.eq_iff_iff, bne_iff_ne, bne_iff_ne, ne_eq, ne_eq, alike.directory here]
      simp only [FileSystem.walk, blocked, ih, alike.present]

theorem Alike.resolve (alike : Alike first second) (here : Location) (path : Text) :
    second.resolve here path = first.resolve here path := by
  simp only [FileSystem.resolve, alike.walk]

end

/-! Why a path leads nowhere. -/

theorem walk_refusal {system : FileSystem} {here : Location} {names : List Text} {refusal : Refusal}
    (refused : system.walk here names = .error refusal) :
    refusal = .missing ∨ refusal = .notDirectory ∨ refusal = .nameTooLong := by
  induction names generalizing here with
  | nil => cases refused
  | cons name rest ih =>
      unfold walk at refused
      split at refused
      · cases refused
        simp
      · split at refused
        · exact ih refused
        · split at refused
          · exact ih refused
          · split at refused
            · cases refused
              simp
            · split at refused
              · exact ih refused
              · cases refused
                simp

theorem resolve_refusal {system : FileSystem} {here : Location} {path : Text} {refusal : Refusal}
    (refused : system.resolve here path = .error refusal) :
    refusal = .missing ∨ refusal = .notDirectory ∨ refusal = .nameTooLong := by
  unfold resolve at refused
  split at refused
  · cases refused
    simp
  · split at refused
    · cases refused
      simp
    · exact walk_refusal refused

theorem walk_names {system : FileSystem} {here location : Location} {names : List Text}
    (walked : system.walk here names = .ok location) : location ⊆ here ++ names := by
  induction names generalizing here with
  | nil =>
      cases walked
      simp
  | cons name rest ih =>
      have further : here ++ rest ⊆ here ++ name :: rest := by simp
      unfold walk at walked
      split at walked
      · cases walked
      · split at walked
        · exact List.Subset.trans (ih walked) further
        · split at walked
          · -- A step up drops a name, and every other step adds its own or none.
            have upward : here.dropLast ++ rest ⊆ here ++ rest :=
              List.append_subset.mpr
                ⟨List.subset_append_of_subset_left _ here.dropLast_subset,
                  List.subset_append_right _ _⟩
            exact List.Subset.trans (ih walked) (List.Subset.trans upward further)
          · split at walked
            · cases walked
            · split at walked
              · simpa using ih walked
              · cases walked

theorem resolve_new_names {system : FileSystem} {here location : Location} {path : Text}
    (led : system.resolveNew here path = .ok location) : location ⊆ here ++ splitOn '/' path := by
  have origin : start here path ⊆ here := by
    unfold start
    split <;> simp
  unfold resolveNew at led
  split at led
  · cases led
  · dsimp only at led
    split at led
    · cases led
    · next parent walked =>
      split at led
      · cases led
        have last : (splitOn '/' path).getLast?.toList ⊆ splitOn '/' path := by
          intro name inside
          exact List.mem_of_getLast? (by simpa using inside)
        have parts : start here path ++ (splitOn '/' path).dropLast ⊆ here ++ splitOn '/' path :=
          List.append_subset.mpr
            ⟨List.subset_append_of_subset_left _ origin,
              List.subset_append_of_subset_right _ (List.dropLast_subset _)⟩
        exact List.append_subset.mpr
          ⟨List.Subset.trans (walk_names walked) parts, List.subset_append_of_subset_right _ last⟩
      · cases led

/-! Removing a directory, with all that is in it or with less. -/

theorem remove_tree_whole (system : FileSystem) (directory : Location) :
    system.removeTree directory [] =
      { system with entries := system.entries.filter fun known =>
          !directory.isPrefixOf known.1 } := by
  simp [removeTree]

theorem remove_tree_put (system : FileSystem) {directory location : Location}
    (inside : directory <+: location) (entry : Entry) :
    (system.put location entry).removeTree directory [] = system.removeTree directory [] := by
  have covered : directory.isPrefixOf location = true := List.isPrefixOf_iff_prefix.mpr inside
  simp only [remove_tree_whole]
  unfold put
  split
  · simp only [FileSystem.mk.injEq, and_true, beq_iff_eq]
    induction system.entries with
    | nil => rfl
    | cons known rest ih =>
        by_cases same : known.1 = location
        · simp [same, covered, ih]
        · simp [same, List.filter_cons, ih]
  · simp [covered]

theorem remove_tree_of_free {system : FileSystem} {directory : Location}
    (free : system.isFree directory = true) : system.removeTree directory [] = system := by
  have kept : system.entries.filter (fun known => !directory.isPrefixOf known.1) =
      system.entries := List.filter_eq_self.mpr (List.all_eq_true.mp free)
  rw [remove_tree_whole, kept]

theorem lookup_filter (entries : List (Location × Entry)) (keeps : Location → Bool)
    (other : Location) :
    (entries.filter fun known => keeps known.1).lookup other =
      if keeps other then entries.lookup other else none := by
  induction entries with
  | nil => simp
  | cons known rest ih =>
      obtain ⟨place, held⟩ := known
      rw [List.filter_cons]
      by_cases same : other = place
      · subst same
        cases kept : keeps other <;> simp [kept, ih]
      · have passed : (other == place) = false := by simpa using same
        split <;> simp [List.lookup_cons, passed, ih]

/-- The root directory stays even if all that is in it is removed. -/
theorem find_remove_tree (system : FileSystem) (directory : Location) (spared : List Location)
    (other : Location) :
    (system.removeTree directory spared).find? other =
      if other ≠ [] ∧ directory <+: other ∧ other.drop directory.length ∉ spared then none
      else system.find? other := by
  unfold removeTree find?
  by_cases root : other = []
  · simp [root]
  · have covered : directory.isPrefixOf other = decide (directory <+: other) := by
      rw [Bool.eq_iff_iff, List.isPrefixOf_iff_prefix, decide_eq_true_iff]
    dsimp only
    rw [lookup_filter _ fun place =>
      !directory.isPrefixOf place || spared.contains (place.drop directory.length), covered]
    by_cases inside : directory <+: other <;> simp [root, inside]

theorem find_of_free {system : FileSystem} {directory other : Location}
    (free : system.isFree directory = true) (inside : directory <+: other) (below : other ≠ []) :
    system.find? other = none := by
  rw [← remove_tree_of_free free, find_remove_tree]
  exact if_pos ⟨below, inside, by simp⟩

/-- Nothing was at a directory or below it, and what has come since is there, at some of the places
that are listed. -/
structure Confined (directory : Location) (places : List Location) (before after : FileSystem) :
    Prop where
  free : before.isFree directory = true
  outside : ∀ other, (∀ place ∈ places, other ≠ directory ++ place) →
    after.find? other = before.find? other

theorem Confined.of_cleared {directory : Location} {before after : FileSystem}
    (free : before.isFree directory = true) (cleared : after.removeTree directory [] = before)
    (places : List Location) :
    Confined directory places before (after.removeTree directory places) := by
  refine ⟨free, fun other apart => ?_⟩
  rw [← cleared, find_remove_tree, find_remove_tree]
  by_cases inside : directory <+: other
  · obtain ⟨place, rfl⟩ := inside
    have gone : place ∉ places := fun member => apart place member rfl
    simp [gone]
  · simp [inside]

theorem Confined.kept {directory : Location} {places : List Location} {before after : FileSystem}
    (confined : Confined directory places before after) {other : Location} {entry : Entry}
    (found : before.find? other = some entry) : after.find? other = some entry := by
  by_cases below : other = []
  · subst below
    exact found
  · rw [confined.outside other, found]
    rintro place _ rfl
    rw [find_of_free confined.free (List.prefix_append _ _) below] at found
    cases found

end FileSystem

end BlankUse
