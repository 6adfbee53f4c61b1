import BlankUse.Proofs.Acceptance

/-!
Settings that were accepted are safe to work with. The name of the tool is a word, so the closing of a
usage can neither break a line nor be taken for a part of a usage, its comment ends only where it ends,
and no closing begins inside another one. The compiler has a name and the time limit is positive. In
the other direction, fields that are accepted alone are accepted together.
-/

namespace BlankUse

open Byte

namespace Marker

def asterisk : UInt8 := 0x2A

/-- The closing of a marker stands on one line, holds no sign of an opening, ends its comment nowhere
but at its end, and does not overlap with itself. -/
structure Unmistakable (marker : Marker) : Prop where
  newlineFree : newline ∉ marker.closing
  semicolonFree : semicolon ∉ marker.closing
  equalsFree : equals ∉ marker.closing
  ends : ∃ front, marker.closing = front ++ [asterisk, slash]
  endsOnce : ∀ front behind, marker.closing = front ++ asterisk :: slash :: behind → behind = []
  unbordered : ∀ border, border ≠ [] → border <+: marker.closing → border <:+ marker.closing →
    border = marker.closing

variable {marker : Marker}

theorem closing_end (marker : Marker) :
    ∃ front, marker.closing = front ++ [asterisk, slash] :=
  ⟨space :: ascii ['/', '*', ' ', 'T', 'O', 'D', 'O', ':', ' '] ++ Utf8.encode marker.tool ++
    [space], by simp [closing, comment, ascii, asterisk, slash, space]⟩

theorem closing_slash (word : marker.tool.WordChars) {front behind : Bytes}
    (shape : marker.closing = front ++ slash :: behind) : front = [space] ∨ behind = [] := by
  obtain ⟨inner, written, innerFree, -⟩ := comment_shape word
  rw [closing, written] at shape
  rcases front with _ | ⟨first, _ | ⟨second, front⟩⟩
  · exact absurd (List.cons_eq_cons.mp shape).1 (by decide)
  · left
    rw [(List.cons_eq_cons.mp shape).1]
  · right
    obtain ⟨-, afterFirst⟩ := List.cons_eq_cons.mp shape
    obtain ⟨-, later⟩ := List.cons_eq_cons.mp afterFirst
    rcases List.eq_nil_or_concat behind with none | ⟨before, last, rfl⟩
    · exact none
    · -- A slash before the last byte would be one of the inner bytes.
      have whole : inner ++ [slash] = (front ++ slash :: before) ++ [last] := by
        simpa using later
      have within : slash ∈ inner := by
        rw [List.append_inj_left' whole rfl]
        simp
      exact absurd within innerFree

theorem closing_ends_once (word : marker.tool.WordChars) {front behind : Bytes}
    (shape : marker.closing = front ++ asterisk :: slash :: behind) : behind = [] := by
  have split : marker.closing = (front ++ [asterisk]) ++ slash :: behind := by
    simpa using shape
  rcases closing_slash word split with first | last
  · have byte := congrArg List.getLast? first
    rw [List.getLast?_concat] at byte
    exact absurd byte (by decide)
  · exact last

/-- Bytes that a closing both begins and ends with end in a slash. They are not its first two bytes,
since a space stands before the first slash and an asterisk before the last. -/
theorem closing_unbordered (word : marker.tool.WordChars) {border : Bytes} (nonempty : border ≠ [])
    (begins : border <+: marker.closing) (ends : border <:+ marker.closing) :
    border = marker.closing := by
  obtain ⟨front, closed⟩ := closing_end marker
  obtain ⟨behind, shape⟩ := begins
  obtain ⟨before, again⟩ := ends
  obtain ⟨start, rfl⟩ : ∃ start, border = start ++ [slash] := by
    apply List.getLast?_eq_some_iff.mp
    have last := congrArg List.getLast? (again.trans closed)
    rwa [List.getLast?_append_of_ne_nil _ nonempty,
      List.getLast?_append_of_ne_nil _ (by simp)] at last
  have split : marker.closing = start ++ slash :: behind := by
    simpa using shape.symm
  rcases closing_slash word split with rfl | rfl
  · have ending : before ++ [space] = front ++ [asterisk] := by
      have same := again.trans closed
      have split : (before ++ [space]) ++ [slash] = (front ++ [asterisk]) ++ [slash] := by
        simpa using same
      exact List.append_inj_left' split rfl
    have byte := congrArg List.getLast? ending
    rw [List.getLast?_concat, List.getLast?_concat] at byte
    exact absurd byte (by decide)
  · rw [← shape, List.append_nil]

theorem unmistakable (word : marker.tool.WordChars) : marker.Unmistakable where
  newlineFree := closing_newline_free word
  semicolonFree := closing_avoids word (by decide) (by decide)
  equalsFree := closing_avoids word (by decide) (by decide)
  ends := closing_end marker
  endsOnce := fun _ _ => closing_ends_once word
  unbordered := fun _ => closing_unbordered word

end Marker

namespace Settings

variable {environment : Environment} {store : Store} {entries others : List (Scalar × Value)}
  {settings other : Settings} {key : Text} {value : Value}

/-! Fields do not depend on each other. -/

section

variable {Result : Type} {missing : Result} {check : Value → Checked Result}

theorem check_field_congr (same : field? entries key = field? others key) :
    checkField entries key missing check = checkField others key missing check := by
  rw [checkField, checkField, same]

theorem check_field_absent (absent : field? entries key = none) :
    (checkField entries key missing check).outcome = .ok missing := by
  rw [checkField, absent]

theorem field_alone (key name : Text) (value : Value) :
    field? [(.str key, value)] name = if name = key then some value else none := by
  by_cases same : name = key
  · simp [field?, same]
  · have differs : (Scalar.str name == Scalar.str key) = false := by simp [same]
    simp [field?, List.lookup_cons, same, differs]

theorem check_field_alone {name : Text} (found : field? entries key = some value)
    (accepted : ∃ result, (checkField entries name missing check).outcome = .ok result) :
    ∃ result, (checkField [(.str key, value)] name missing check).outcome = .ok result := by
  by_cases same : name = key
  · have alike : field? [(.str key, value)] name = field? entries name := by
      rw [field_alone, if_pos same, same, found]
    rwa [check_field_congr alike]
  · exact ⟨missing, check_field_absent (by rw [field_alone, if_neg same])⟩

theorem check_field_of_alone
    (alone : ∀ value, field? entries key = some value →
      ∃ result, (checkField [(.str key, value)] key missing check).outcome = .ok result) :
    ∃ result, (checkField entries key missing check).outcome = .ok result := by
  cases found : field? entries key with
  | none => exact ⟨missing, check_field_absent found⟩
  | some value =>
      have alike : field? entries key = field? [(.str key, value)] key := by
        rw [field_alone, if_pos rfl, found]
      rw [check_field_congr alike]
      exact alone value found

end

theorem exists_accepted
    (toolName : ∃ result, (checkField entries toolNameKey default.toolName
      (plain ∘ checkToolName)).outcome = .ok result)
    (goBinary : ∃ result, (checkField entries goBinaryKey default.goBinary
      (checkGoBinary environment store)).outcome = .ok result)
    (buildFlags : ∃ result, (checkField entries buildFlagsKey default.buildFlags
      (plain ∘ checkBuildFlags store)).outcome = .ok result)
    (tempDir : ∃ result, (checkField entries tempDirKey none
      (expanded environment store tempDirKey)).outcome = .ok result)
    (workdir : ∃ result, (checkField entries workdirKey none
      (expanded environment store workdirKey)).outcome = .ok result)
    (timeout : ∃ result, (checkField entries timeoutKey default.timeout
      (plain ∘ checkTimeout)).outcome = .ok result)
    (known : strangers entries = []) :
    ∃ settings, Accepted environment store entries settings := by
  obtain ⟨toolName, named⟩ := toolName
  obtain ⟨goBinary, compiler⟩ := goBinary
  obtain ⟨buildFlags, flagged⟩ := buildFlags
  obtain ⟨tempDir, temporary⟩ := tempDir
  obtain ⟨workdir, placed⟩ := workdir
  obtain ⟨timeout, limited⟩ := timeout
  exact ⟨⟨toolName, goBinary, buildFlags, tempDir, workdir, timeout⟩,
    ⟨named, compiler, flagged, temporary, placed, limited, known⟩⟩

theorem Accepted.field_key (accepted : Accepted environment store entries settings)
    (found : field? entries key = some value) : key ∈ fieldKeys := by
  obtain ⟨before, after, rfl, -⟩ := List.lookup_eq_some_iff.mp found
  obtain ⟨name, named, same⟩ := strangers_eq_nil_iff.mp accepted.known (.str key, value) (by simp)
  cases same
  exact named

theorem Accepted.alone (accepted : Accepted environment store entries settings)
    (found : field? entries key = some value) :
    ∃ alone, Accepted environment store [(.str key, value)] alone := by
  have known : strangers [(.str key, value)] = [] := by
    rw [strangers_eq_nil_iff]
    rintro entry member
    rw [List.mem_singleton.mp member]
    exact ⟨key, accepted.field_key found, rfl⟩
  exact exists_accepted (check_field_alone found ⟨_, accepted.toolName⟩)
    (check_field_alone found ⟨_, accepted.goBinary⟩)
    (check_field_alone found ⟨_, accepted.buildFlags⟩)
    (check_field_alone found ⟨_, accepted.tempDir⟩) (check_field_alone found ⟨_, accepted.workdir⟩)
    (check_field_alone found ⟨_, accepted.timeout⟩) known

theorem accepted_of_alone (known : strangers entries = [])
    (alone : ∀ key value, field? entries key = some value →
      ∃ alone, Accepted environment store [(.str key, value)] alone) :
    ∃ settings, Accepted environment store entries settings := by
  apply exists_accepted _ _ _ _ _ _ known
  all_goals
    apply check_field_of_alone
    intro value found
    obtain ⟨settings, accepted⟩ := alone _ value found
  · exact ⟨_, accepted.toolName⟩
  · exact ⟨_, accepted.goBinary⟩
  · exact ⟨_, accepted.buildFlags⟩
  · exact ⟨_, accepted.tempDir⟩
  · exact ⟨_, accepted.workdir⟩
  · exact ⟨_, accepted.timeout⟩

structure Agree (key : Text) (settings other : Settings) : Prop where
  toolName : key = toolNameKey → settings.toolName = other.toolName
  goBinary : key = goBinaryKey → settings.goBinary = other.goBinary
  buildFlags : key = buildFlagsKey → settings.buildFlags = other.buildFlags
  tempDir : key = tempDirKey → settings.tempDir = other.tempDir
  workdir : key = workdirKey → settings.workdir = other.workdir
  timeout : key = timeoutKey → settings.timeout = other.timeout

theorem Accepted.agree (accepted : Accepted environment store entries settings)
    (again : Accepted environment store others other)
    (same : field? entries key = field? others key) : Agree key settings other := by
  have equal {Result : Type} {missing first second : Result} {check : Value → Checked Result}
      (one : (checkField entries key missing check).outcome = .ok first)
      (two : (checkField others key missing check).outcome = .ok second) : first = second := by
    rw [check_field_congr same, two] at one
    exact (Except.ok.inj one).symm
  constructor <;> rintro rfl
  · exact equal accepted.toolName again.toolName
  · exact equal accepted.goBinary again.goBinary
  · exact equal accepted.buildFlags again.buildFlags
  · exact equal accepted.tempDir again.tempDir
  · exact equal accepted.workdir again.workdir
  · exact equal accepted.timeout again.timeout

theorem accepted_default : Accepted environment store [] default :=
  ⟨rfl, rfl, rfl, rfl, rfl, rfl, rfl⟩

theorem Accepted.go_binary_present (accepted : Accepted environment store entries settings) :
    settings.goBinary ≠ [] ∧ ∀ value, field? entries goBinaryKey = some value →
      ∃ written, store.plainText value = .ok written ∧
        settings.goBinary = (environment.substitute written).1 := by
  rcases check_field_ok accepted.goBinary with ⟨absent, same⟩ | ⟨value, found, checked⟩
  · rw [same, absent]
    exact ⟨by decide, nofun⟩
  · obtain ⟨nonempty, written⟩ := check_go_binary_ok checked
    refine ⟨nonempty, fun other again => ?_⟩
    rw [found] at again
    cases again
    exact written

theorem Accepted.timeout_positive (accepted : Accepted environment store entries settings) :
    ∀ limit, settings.timeout = some limit → 1 ≤ limit := by
  intro limit limited
  rcases check_field_ok accepted.timeout with ⟨-, same⟩ | ⟨value, -, checked⟩
  · rw [same] at limited
    cases limited
  · exact check_timeout_ok (plain_ok checked) limit limited

/-- Settings that are accepted are safe, and fields are accepted one by one. The name of the tool is a
word, and so the closing of its usages is unmistakable. The compiler has a name, which is the text that
was given for it with the references replaced, and a time limit is at least one. Every key of the data is
a field. A map is accepted exactly if its keys are fields and each of its entries is accepted alone, and
then each field has the value it would have alone, or the default where it is missing. -/
theorem accepted_settings_are_safe (environment : Environment) (data : Data) :
    (∀ settings, (ofData environment data).outcome = .ok settings →
      settings.toolName ≠ [] ∧ (∀ c ∈ settings.toolName, Text.isLabel c = true) ∧
      Marker.Unmistakable ⟨settings.toolName⟩ ∧
      settings.goBinary ≠ [] ∧
      (∀ limit, settings.timeout = some limit → 1 ≤ limit) ∧
      ∃ entries, entries? data = some entries ∧
        (∀ entry ∈ entries, ∃ key ∈ fieldKeys, entry.1 = .str key) ∧
        ∀ value, field? entries goBinaryKey = some value →
          ∃ written, data.store.plainText value = .ok written ∧
            settings.goBinary = (environment.substitute written).1) ∧
    ∀ entries, entries? data = some entries →
      ((∃ settings, (ofData environment data).outcome = .ok settings) ↔
        (∀ entry ∈ entries, ∃ key ∈ fieldKeys, entry.1 = .str key) ∧
        ∀ key value, field? entries key = some value →
          ∃ alone, (ofEntries environment data.store [(.str key, value)]).outcome = .ok alone) ∧
      ∀ settings, (ofData environment data).outcome = .ok settings → ∀ key,
        (field? entries key = none → Agree key settings default) ∧
        ∀ value alone, field? entries key = some value →
          (ofEntries environment data.store [(.str key, value)]).outcome = .ok alone →
            Agree key settings alone := by
  simp only [of_data_ok_iff, of_entries_ok_iff]
  constructor
  · rintro settings ⟨entries, found, accepted⟩
    have labels := accepted.tool_label
    obtain ⟨nonempty, substituted⟩ := accepted.go_binary_present
    have word : Text.WordChars settings.toolName := fun c member => Or.inr (labels.2 c member)
    exact ⟨labels.1, labels.2, Marker.unmistakable word, nonempty, accepted.timeout_positive,
      entries, found, strangers_eq_nil_iff.mp accepted.known, substituted⟩
  · intro entries found
    simp only [found, Option.some.injEq, exists_eq_left']
    constructor
    · constructor
      · rintro ⟨settings, accepted⟩
        exact ⟨strangers_eq_nil_iff.mp accepted.known, fun _ _ => accepted.alone⟩
      · rintro ⟨known, alone⟩
        exact accepted_of_alone (strangers_eq_nil_iff.mpr known) alone
    · intro settings accepted key
      constructor
      · intro absent
        exact accepted.agree accepted_default absent
      · intro value alone present again
        apply accepted.agree again
        rw [present, field_alone, if_pos rfl]

/-- A tool whose name has a mark in it, a compiler that is a reference, and a time limit that is given
as a truth value; the other fields are missing. -/
theorem accepted_settings_are_safe_marked :
    let environment : Environment := [(['G'], ['g', 'o'])]
    let entries : List (Scalar × Value) :=
      [(.str timeoutKey, .scalar (.bool true)),
        (.str toolNameKey, .scalar (.str ['e', Char.ofNat 0x301])),
        (.str goBinaryKey, .scalar (.str ['$', '{', 'G', '}']))]
    let data : Data := ⟨#[.map entries], .collection 0⟩
    let settings : Settings := ⟨['e', Char.ofNat 0x301], ['g', 'o'], [], none, none, some 1⟩
    (ofData environment data).outcome = .ok settings ∧
      Marker.Unmistakable ⟨settings.toolName⟩ ∧ settings.goBinary ≠ [] ∧
      (∀ entry ∈ entries, ∃ key ∈ fieldKeys, entry.1 = .str key) ∧
      Agree tempDirKey settings default := by
  intro environment entries data settings
  have accepted : (ofData environment data).outcome = .ok settings := by decide +kernel
  obtain ⟨safe, fieldwise⟩ := accepted_settings_are_safe environment data
  obtain ⟨-, -, unmistakable, nonempty, -, -⟩ := safe settings accepted
  obtain ⟨exactly, agree⟩ := fieldwise entries rfl
  exact ⟨accepted, unmistakable, nonempty, (exactly.mp ⟨settings, accepted⟩).1,
    (agree settings accepted tempDirKey).1 (by decide)⟩

end Settings

end BlankUse
