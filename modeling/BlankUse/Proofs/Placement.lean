import BlankUse.Proofs.Reported

/-!
Where a report places its messages. A message is usable if its line field is the number of a line of
the code. A report is read to its end before any line is edited, and then every edit has to lie in the
code; both go well exactly if every message is usable. What goes wrong otherwise can always be told,
since a line field of more digits than can be written is no number to begin with.
-/

namespace BlankUse

open Diagnostic LineBuffer

def Diagnostic.Match.Places (found : Match) (count : Nat) : Prop :=
  ∃ number, Text.integer? found.line = some number ∧ 1 ≤ number ∧ number ≤ (count : Int)

/-- The build failed, and a message of the kind has a line field that is no number of a line. -/
def Report.Unusable (report : Report) (kind : Kind) (count : Nat) : Prop :=
  report.success = false ∧
    ∃ line ∈ report.lines, ∃ found, kind.match? line = some found ∧ ¬ found.Places count

def Report.Read (report : Report) (kind : Kind) (findings : List Finding) : Prop :=
  (report.success = true ∧ findings = []) ∨
    (report.success = false ∧ kind.findings report.lines = .ok findings)

/-! Numbers that are read can be written. -/

theorem Text.digit_lt {c : Char} {value : Nat} (read : Text.digit? c = some value) : value < 10 := by
  obtain ⟨first, -, found⟩ := List.exists_of_findSome?_eq_some read
  split at found
  · next range =>
    cases found
    omega
  · cases found

theorem Text.digits_loop_lt {done digits : List Nat} {afterDigit : Bool} {text : Text}
    (small : ∀ value ∈ done, value < 10)
    (read : Text.digitsLoop Text.digit? done afterDigit text = some digits) :
    ∀ value ∈ digits, value < 10 := by
  induction text generalizing done afterDigit with
  | nil =>
      simp only [Text.digitsLoop] at read
      split at read
      · cases read
        simpa using small
      · cases read
  | cons c rest ih =>
      simp only [Text.digitsLoop] at read
      split at read
      · split at read
        · exact ih small read
        · cases read
      · split at read
        · next value here =>
          refine ih ?_ read
          intro other member
          rcases List.mem_cons.mp member with rfl | earlier
          · exact Text.digit_lt here
          · exact small other earlier
        · cases read

theorem Text.fold_digits_lt (digits : List Nat) (small : ∀ value ∈ digits, value < 10)
    (start : Nat) :
    digits.foldl (fun value digit => value * 10 + digit) start <
      (start + 1) * Nat.pow 10 digits.length := by
  induction digits generalizing start with
  | nil => simp
  | cons digit rest ih =>
      have here := small digit (by simp)
      have later := ih (fun value member => small value (by simp [member])) (start * 10 + digit)
      have power : Nat.pow 10 (rest.length + 1) = Nat.pow 10 rest.length * 10 := rfl
      have widened : (start * 10 + digit + 1) * Nat.pow 10 rest.length ≤
          (start + 1) * 10 * Nat.pow 10 rest.length := Nat.mul_le_mul_right _ (by omega)
      rw [List.foldl_cons, List.length_cons, power, Nat.mul_comm (Nat.pow 10 rest.length),
        ← Nat.mul_assoc]
      omega

theorem Text.value_of_lt (digits : List Nat) (small : ∀ value ∈ digits, value < 10) {limit : Nat}
    (short : digits.length ≤ limit) : Text.valueOf 10 digits < Nat.pow 10 limit := by
  have below := Text.fold_digits_lt digits small 0
  rw [Nat.zero_add, Nat.one_mul] at below
  exact Nat.lt_of_lt_of_le below (Nat.pow_le_pow_right (by decide) short)

theorem Text.integer_not_too_long {text : Text} {number : Int}
    (read : Text.integer? text = some number) : Text.isTooLong number = false := by
  simp only [Text.integer?] at read
  split at read
  · cases read
  · next digits spelled =>
    split at read
    · next short =>
      cases read
      have small := Text.digits_loop_lt (by simp) spelled
      have below := Text.value_of_lt digits small short
      have size : (Text.withSign (Text.signed text).1 (Text.valueOf 10 digits)).natAbs =
          Text.valueOf 10 digits := by
        unfold Text.withSign
        split <;> simp
      rw [Text.isTooLong, size, decide_eq_false_iff_not]
      exact Nat.not_le.mpr below
    · cases read

/-! Reading a report. -/

theorem Kind.finding_error {kind : Kind} {line : Text} {problem : Problem}
    (read : kind.finding? line = .error problem) (count : Nat) :
    problem ≠ .unwritable ∧
      ∃ found, kind.match? line = some found ∧ ¬ found.Places count := by
  simp only [finding?] at read
  split at read
  · cases read
  · next found matched =>
    split at read
    · next missing =>
      cases read
      refine ⟨by simp, found, matched, ?_⟩
      rintro ⟨number, numbered, -⟩
      rw [missing] at numbered
      cases numbered
    · next number numbered =>
      split at read
      · next low =>
        cases read
        refine ⟨by simp, found, matched, ?_⟩
        rintro ⟨other, same, positive, -⟩
        rw [numbered] at same
        cases same
        omega
      · cases read

theorem Kind.finding_of_match {kind : Kind} {line : Text} {result : Option Finding} {found : Match}
    (read : kind.finding? line = .ok result) (matched : kind.match? line = some found) :
    ∃ number, Text.integer? found.line = some number ∧ 1 ≤ number ∧
      kind.symbol? line = some ⟨found.name, number⟩ := by
  simp only [finding?, matched] at read
  split at read
  · cases read
  · next number numbered =>
    split at read
    · cases read
    · exact ⟨number, numbered, by omega, by simp [symbol?, matched, numbered]⟩

theorem Kind.findings_error {kind : Kind} {lines : List Text} {problem : Problem}
    (read : kind.findings lines = .error problem) :
    ∃ line ∈ lines, kind.finding? line = .error problem := by
  induction lines with
  | nil => cases read
  | cons line rest ih =>
      simp only [Kind.findings] at read
      split at read
      · next here =>
        cases read
        exact ⟨line, by simp, here⟩
      · split at read
        · next later =>
          cases read
          obtain ⟨other, member, there⟩ := ih later
          exact ⟨other, by simp [member], there⟩
        · cases read

theorem Kind.findings_lines {kind : Kind} {lines : List Text} {findings : List Finding}
    (read : kind.findings lines = .ok findings) :
    ∀ line ∈ lines, ∃ result, kind.finding? line = .ok result := by
  induction lines generalizing findings with
  | nil => simp
  | cons line rest ih =>
      simp only [Kind.findings] at read
      split at read
      · cases read
      · next found here =>
        split at read
        · cases read
        · next later =>
          intro other member
          rcases List.mem_cons.mp member with rfl | behind
          · exact ⟨found, here⟩
          · exact ih later other behind

theorem Kind.mem_findings {kind : Kind} {lines : List Text} {findings : List Finding}
    (read : kind.findings lines = .ok findings) (finding : Finding) :
    finding ∈ findings ↔ ∃ line ∈ lines, ∃ symbol, kind.symbol? line = some symbol ∧
      symbol.finding = finding := by
  rw [← findings_ok read]
  simp only [List.mem_map, List.mem_filterMap]
  constructor
  · rintro ⟨symbol, ⟨line, member, named⟩, same⟩
    exact ⟨line, member, symbol, named, same⟩
  · rintro ⟨line, member, symbol, named, same⟩
    exact ⟨symbol, ⟨line, member, named⟩, same⟩

theorem Kind.symbol_number {kind : Kind} {line : Text} {symbol : Symbol}
    (named : kind.symbol? line = some symbol) :
    ∃ found, kind.match? line = some found ∧ Text.integer? found.line = some symbol.number := by
  simp only [symbol?, Option.bind_eq_bind, Option.bind_eq_some_iff] at named
  obtain ⟨found, matched, number, numbered, made⟩ := named
  cases made
  exact ⟨found, matched, numbered⟩

theorem Report.Read.symbols {report : Report} {kind : Kind} {findings : List Finding}
    (read : report.Read kind findings) : (report.symbols kind).map Symbol.finding = findings := by
  rcases read with ⟨succeeded, rfl⟩ | ⟨failed, read⟩
  · simp [Report.symbols, succeeded]
  · simpa [Report.symbols, failed] using Kind.findings_ok read

theorem Report.Read.inside_iff {report : Report} {kind : Kind} {findings : List Finding}
    (read : report.Read kind findings) (lines : List Bytes) :
    (∀ finding ∈ findings, Inside lines finding.line) ↔ ¬ report.Unusable kind lines.length := by
  rcases read with ⟨succeeded, rfl⟩ | ⟨failed, read⟩
  · simp [Report.Unusable, succeeded]
  constructor
  · rintro inside ⟨-, line, member, found, matched, misplaced⟩
    obtain ⟨result, here⟩ := Kind.findings_lines read line member
    obtain ⟨number, numbered, positive, named⟩ := Kind.finding_of_match here matched
    have within := inside ⟨found.name, number - 1⟩
      ((Kind.mem_findings read _).mpr ⟨line, member, _, named, rfl⟩)
    have bounded : number - 1 < (lines.length : Int) := within.2
    exact misplaced ⟨number, numbered, positive, by omega⟩
  · intro usable finding member
    obtain ⟨line, inLines, symbol, named, rfl⟩ := (Kind.mem_findings read finding).mp member
    obtain ⟨found, matched, numbered⟩ := Kind.symbol_number named
    have placed : found.Places lines.length := by
      by_contra misplaced
      exact usable ⟨failed, line, inLines, found, matched, misplaced⟩
    obtain ⟨number, same, positive, bounded⟩ := placed
    rw [numbered] at same
    cases same
    exact ⟨by simp only [Symbol.finding]; omega, by simp only [Symbol.finding]; omega⟩

/-- Edits for the findings of a report that leave the code end in a problem that can be told. -/
theorem Report.Read.problem {report : Report} {kind : Kind} {findings : List Finding}
    {lines done : List Bytes} {problem : Problem} (read : report.Read kind findings)
    (change : Finding → Bytes → Bytes)
    (result : applyEdits (findings.map fun finding => ⟨finding.line, change finding⟩) lines =
      ⟨done, some problem⟩) :
    report.Unusable kind lines.length ∧ problem ≠ .unwritable := by
  obtain ⟨edit, member, outside, told⟩ := apply_edits_problem result
  obtain ⟨finding, found, rfl⟩ := List.mem_map.mp member
  constructor
  · by_contra usable
    exact outside ((read.inside_iff lines).mpr usable finding found)
  · rcases read with ⟨-, rfl⟩ | ⟨-, read⟩
    · cases found
    · obtain ⟨line, -, symbol, named, rfl⟩ := (Kind.mem_findings read finding).mp found
      obtain ⟨message, -, numbered⟩ := Kind.symbol_number named
      have number : symbol.finding.line + 1 = symbol.number := by
        simp only [Symbol.finding]
        omega
      have short := Text.integer_not_too_long numbered
      simp only [Problem.ofOutside, number, short, Bool.false_eq_true, if_false] at told
      rw [told]
      exact Problem.noConfusion

theorem Report.unusable_of_reading {report : Report} {kind : Kind} {problem : Problem}
    (failed : report.success = false) (read : kind.findings report.lines = .error problem)
    (count : Nat) : report.Unusable kind count ∧ problem ≠ .unwritable := by
  obtain ⟨line, member, here⟩ := Kind.findings_error read
  obtain ⟨told, found, matched, misplaced⟩ := Kind.finding_error here count
  exact ⟨⟨failed, line, member, found, matched, misplaced⟩, told⟩

end BlankUse
