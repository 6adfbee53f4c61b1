import BlankUse.Toggle
import BlankUse.Proofs.Edits
import BlankUse.Proofs.Grammar
import BlankUse.Proofs.WordBytes

/-!
What a report says about a kind of complaint: the symbols of its messages in order, each with the
number of the line it was reported on. Reading the report stops at a message that cannot be used;
where it does not stop, the findings are these symbols and nothing else. The name of an unused
variable is a word.
-/

namespace BlankUse

open Diagnostic

/-- A symbol and the number of the line it was reported on, counted from one. -/
structure Symbol where
  name : Text
  number : Int
  deriving DecidableEq, Repr

def Kind.symbol? (kind : Kind) (line : Text) : Option Symbol := do
  let found ← kind.match? line
  let number ← Text.integer? found.line
  return ⟨found.name, number⟩

/-- The symbols of a report; a build that succeeds complains about none. -/
def Report.symbols (report : Report) (kind : Kind) : List Symbol :=
  if report.success then [] else report.lines.filterMap kind.symbol?

def Report.unusedOn (report : Report) (number : Int) : List Text :=
  ((report.symbols .unused).filter fun symbol => symbol.number = number).map Symbol.name

def Symbol.finding (symbol : Symbol) : Finding := ⟨symbol.name, symbol.number - 1⟩

/-! Findings are symbols. -/

theorem Kind.finding_ok {kind : Kind} {line : Text} {found : Option Finding}
    (read : kind.finding? line = .ok found) : (kind.symbol? line).map Symbol.finding = found := by
  simp only [finding?] at read
  split at read
  · next missing =>
    cases read
    simp [symbol?, missing]
  · next message matched =>
    split at read
    · cases read
    · next number numbered =>
      split at read
      · cases read
      · cases read
        simp [symbol?, matched, numbered, Symbol.finding]

theorem Kind.findings_ok {kind : Kind} {lines : List Text} {findings : List Finding}
    (read : kind.findings lines = .ok findings) :
    (lines.filterMap kind.symbol?).map Symbol.finding = findings := by
  induction lines generalizing findings with
  | nil =>
      cases read
      rfl
  | cons line rest ih =>
      simp only [Kind.findings] at read
      split at read
      · cases read
      · next found here =>
        split at read
        · cases read
        · next more later =>
          cases read
          have first := finding_ok here
          rw [← ih later, ← first]
          cases symbol : kind.symbol? line with
          | none =>
              rw [List.filterMap_cons_none symbol]
              rfl
          | some found =>
              rw [List.filterMap_cons_some symbol]
              rfl

theorem names_on_symbols (symbols : List Symbol) (index : Nat) :
    LineBuffer.namesOn (symbols.map Symbol.finding) index =
      (symbols.filter fun symbol => symbol.number = (index : Int) + 1).map Symbol.name := by
  have same : ∀ symbol : Symbol,
      symbol.finding.line = (index : Int) ↔ symbol.number = (index : Int) + 1 := by
    intro symbol
    simp only [Symbol.finding]
    omega
  rw [LineBuffer.namesOn, List.filter_map, List.map_map]
  simp only [Function.comp_def, same]
  rfl

/-! The names of unused variables. -/

theorem Wording.Tells.name_word {wording : Wording} {name message : Text}
    (told : wording.Tells name message) (mine : wording ∈ Kind.unused.wordings) :
    ∀ c ∈ name, Text.isWord c = true := by
  cases told with
  | noProvider => simp [Kind.wordings] at mine
  | unusedBefore _ word => exact word
  | unusedAnd _ word => exact word
  | unusedBut _ word => exact word

theorem match_name_word {line : Text} {found : Match}
    (matched : Kind.unused.match? line = some found) :
    found.name.WordChars := by
  obtain ⟨wording, mine, searched⟩ := List.exists_of_findSome?_eq_some matched
  obtain ⟨reading, rfl, -⟩ := search_foremost searched
  intro c inside
  exact Or.inl (reading.told.name_word mine c inside)

theorem Report.symbol_word (report : Report) :
    ∀ symbol ∈ report.symbols .unused, symbol.name.WordChars := by
  intro symbol member
  simp only [symbols] at member
  split at member
  · cases member
  · obtain ⟨line, -, read⟩ := List.mem_filterMap.mp member
    simp only [Kind.symbol?, Option.bind_eq_bind, Option.bind_eq_some_iff] at read
    obtain ⟨found, matched, number, -, made⟩ := read
    cases made
    exact match_name_word matched

end BlankUse
