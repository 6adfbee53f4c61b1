import BlankUse.Settings
import BlankUse.Proofs.WordBytes

/-!
What settings that were accepted are known to be. Data is accepted if and only if every field is and no
key is a stranger, and then each field of the settings has passed its own check or is the default. A
field is checked without looking at the others, so it gets the value that it would get alone.
-/

namespace BlankUse.Settings

variable {environment : Environment} {store : Store} {entries others : List (Scalar × Value)}
  {settings other : Settings}

/-! The checks of single fields. -/

theorem check_tool_name_ok {value : Value} {text : Text}
    (checked : checkToolName value = .ok text) :
    text ≠ [] ∧ ∀ c ∈ text, Text.isLabel c = true := by
  simp only [checkToolName, fault] at checked
  split at checked
  · cases checked
  · next read _ =>
    split at checked
    · next shape =>
      cases checked
      simpa using shape
    · cases checked

theorem default_tool_name :
    default.toolName ≠ [] ∧ ∀ c ∈ default.toolName, Text.isLabel c = true := by
  have labels : default.toolName.all Text.isLabel = true := by decide
  exact ⟨by decide, List.all_eq_true.mp labels⟩

theorem plain_ok {Result : Type} {checked : Except (List Issue) Result} {result : Result}
    (accepted : (plain checked).outcome = .ok result) : checked = .ok result := by
  cases checked with
  | error issues => cases accepted
  | ok value =>
      cases accepted
      rfl

theorem expanded_ok {key : Text} {value : Value} {text : Text}
    (accepted : (expanded environment store key value).outcome = .ok (some text)) :
    ∃ written, store.plainText value = .ok written ∧ text = (environment.substitute written).1 := by
  unfold expanded at accepted
  split at accepted
  · cases accepted
  · cases accepted
  · cases accepted
  · cases accepted
  · next written _ _ read =>
    cases accepted
    exact ⟨written, read, rfl⟩

theorem present_ok {text : Option Text} {result : Text} (accepted : present text = .ok result) :
    result ≠ [] ∧ text = some result := by
  unfold present at accepted
  split at accepted
  · cases accepted
  · cases accepted
  · next nonempty =>
    cases accepted
    exact ⟨nonempty, rfl⟩

theorem check_go_binary_ok {value : Value} {text : Text}
    (accepted : (checkGoBinary environment store value).outcome = .ok text) :
    text ≠ [] ∧ ∃ written, store.plainText value = .ok written ∧
      text = (environment.substitute written).1 := by
  simp only [checkGoBinary] at accepted
  cases outcome : (expanded environment store goBinaryKey value).outcome with
  | error rejection =>
      rw [outcome] at accepted
      cases accepted
  | ok found =>
      rw [outcome] at accepted
      cases given : present found with
      | error issues =>
          simp [Except.bind, given, Except.mapError] at accepted
      | ok result =>
          simp only [Except.bind, given, Except.mapError, Except.ok.injEq] at accepted
          subst accepted
          obtain ⟨nonempty, rfl⟩ := present_ok given
          exact ⟨nonempty, expanded_ok outcome⟩

theorem check_timeout_ok {value : Value} {limit : Option Int}
    (checked : checkTimeout value = .ok limit) : ∀ number ∈ limit, 1 ≤ number := by
  unfold checkTimeout at checked
  split at checked
  · cases checked
    simp
  · split at checked
    · cases checked
    · next number _ =>
      split at checked
      · cases checked
      · cases checked
        rintro _ ⟨⟩
        omega

theorem strangers_eq_nil_iff :
    strangers entries = [] ↔ ∀ entry ∈ entries, ∃ key ∈ fieldKeys, entry.1 = .str key := by
  rw [strangers, List.filterMap_eq_nil_iff]
  apply forall₂_congr
  intro entry _
  cases entry.1 <;> simp

/-! All fields together. -/

/-- Each field is accepted or missing, and no key is a stranger. -/
structure Accepted (environment : Environment) (store : Store) (entries : List (Scalar × Value))
    (settings : Settings) : Prop where
  toolName : (checkField entries toolNameKey default.toolName (plain ∘ checkToolName)).outcome =
    .ok settings.toolName
  goBinary : (checkField entries goBinaryKey default.goBinary
    (checkGoBinary environment store)).outcome = .ok settings.goBinary
  buildFlags : (checkField entries buildFlagsKey default.buildFlags
    (plain ∘ checkBuildFlags store)).outcome = .ok settings.buildFlags
  tempDir : (checkField entries tempDirKey none
    (expanded environment store tempDirKey)).outcome = .ok settings.tempDir
  workdir : (checkField entries workdirKey none
    (expanded environment store workdirKey)).outcome = .ok settings.workdir
  timeout : (checkField entries timeoutKey default.timeout (plain ∘ checkTimeout)).outcome =
    .ok settings.timeout
  known : strangers entries = []

theorem of_fields_ok_iff {toolName goBinary : Except Rejection Text}
    {buildFlags : Except Rejection (List Text)} {tempDir workdir : Except Rejection (Option Text)}
    {timeout : Except Rejection (Option Int)} {strange : List Issue} :
    ofFields toolName goBinary buildFlags tempDir workdir timeout strange = .ok settings ↔
      toolName = .ok settings.toolName ∧ goBinary = .ok settings.goBinary ∧
      buildFlags = .ok settings.buildFlags ∧ tempDir = .ok settings.tempDir ∧
      workdir = .ok settings.workdir ∧ timeout = .ok settings.timeout ∧ strange = [] := by
  constructor
  · intro accepted
    simp only [ofFields] at accepted
    split at accepted
    · next none =>
      cases accepted
      simp only [List.append_eq_nil_iff] at none
      exact ⟨rfl, rfl, rfl, rfl, rfl, rfl, none.2⟩
    · cases accepted
  · rintro ⟨rfl, rfl, rfl, rfl, rfl, rfl, rfl⟩
    rfl

theorem of_entries_ok_iff :
    (ofEntries environment store entries).outcome = .ok settings ↔
      Accepted environment store entries settings := by
  constructor
  · intro accepted
    simp only [ofEntries] at accepted
    split at accepted
    · cases accepted
    · cases accepted
    · cases accepted
    · obtain ⟨toolName, goBinary, buildFlags, tempDir, workdir, timeout, known⟩ :=
        of_fields_ok_iff.mp accepted
      exact ⟨toolName, goBinary, buildFlags, tempDir, workdir, timeout, known⟩
  · intro accepted
    simp only [ofEntries, accepted.goBinary, accepted.tempDir, accepted.workdir]
    exact of_fields_ok_iff.mpr ⟨accepted.toolName, rfl, accepted.buildFlags, rfl, rfl,
      accepted.timeout, accepted.known⟩

theorem of_data_ok_iff {data : Data} :
    (ofData environment data).outcome = .ok settings ↔
      ∃ entries, entries? data = some entries ∧
        Accepted environment data.store entries settings := by
  unfold ofData
  split
  · next entries found => simp [found, of_entries_ok_iff]
  · next missing => simp [missing, plain, Except.mapError]

theorem check_field_ok {Result : Type} {key : Text} {missing result : Result}
    {check : Value → Checked Result}
    (accepted : (checkField entries key missing check).outcome = .ok result) :
    (field? entries key = none ∧ result = missing) ∨
      ∃ value, field? entries key = some value ∧ (check value).outcome = .ok result := by
  unfold checkField at accepted
  split at accepted
  · next absent =>
    cases accepted
    exact Or.inl ⟨absent, rfl⟩
  · next value found => exact Or.inr ⟨value, found, accepted⟩

theorem Accepted.tool_label (accepted : Accepted environment store entries settings) :
    settings.toolName ≠ [] ∧ ∀ c ∈ settings.toolName, Text.isLabel c = true := by
  rcases check_field_ok accepted.toolName with ⟨-, same⟩ | ⟨value, -, checked⟩
  · rw [same]
    exact default_tool_name
  · exact check_tool_name_ok (plain_ok checked)

theorem accepted_tool_word {data : Data}
    (accepted : (ofData environment data).outcome = .ok settings) :
    settings.toolName.WordChars := by
  obtain ⟨entries, -, fields⟩ := of_data_ok_iff.mp accepted
  exact fun c member => Or.inr (fields.tool_label.2 c member)

end BlankUse.Settings
