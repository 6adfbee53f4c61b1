import BlankUse.Proofs.CleanBuilds
import BlankUse.Proofs.Lines
import BlankUse.Proofs.Message
import BlankUse.Proofs.TextBlocks

/-!
The output of a failed build, as it is written and as it is read. Its lines end in a line feed with or
without a carriage return. A line is chatter that mentions no source file, or a message about an unused
variable behind a path. Neither chatter nor paths need to be well formed: a character that is cut off
in front of a mark or of a line end ends there, and nothing behind it is lost. So the findings are the
messages that were written, in their order.
-/

namespace BlankUse

open Byte Diagnostic

/-- Bytes inside a line that mention no source file, as they are read. -/
structure Chatter where
  bytes : Bytes
  feedFree : newline ∉ bytes
  returnFree : carriageReturn ∉ bytes
  unmarked : ¬ ['.', 'g', 'o', ':'] <:+: Utf8.decodeLossy bytes

inductive OutputLine where
  | chatter (said : Chatter)
  | message (path : Chatter) (written : Message)

namespace OutputLine

def bytes : OutputLine → Bytes
  | chatter said => said.bytes
  | message path written => path.bytes ++ Utf8.encode written.render

def finding? : OutputLine → Option Finding
  | chatter _ => none
  | message _ written => some written.finding

def text (line : OutputLine) : Text := Utf8.decodeLossy line.bytes

end OutputLine

inductive LineEnd where
  | feed
  | returnFeed
  deriving DecidableEq, Repr

def LineEnd.bytes : LineEnd → Bytes
  | feed => [newline]
  | returnFeed => [carriageReturn, newline]

/-- The lines of an output, each but the first with the line end in front of it. -/
structure Transcript where
  first : OutputLine
  later : List (LineEnd × OutputLine)

namespace Transcript

def bytes (transcript : Transcript) : Bytes :=
  transcript.first.bytes ++ transcript.later.flatMap fun line => line.1.bytes ++ line.2.bytes

def lines (transcript : Transcript) : List OutputLine :=
  transcript.first :: transcript.later.map Prod.snd

def findings (transcript : Transcript) : List Finding :=
  transcript.lines.filterMap OutputLine.finding?

end Transcript

/-! Lines. -/

namespace OutputLine

theorem text_message (path : Chatter) (written : Message) :
    (message path written).text = Utf8.decodeLossy path.bytes ++ written.render := by
  obtain ⟨rest, shape, -⟩ := written.render_chars
  have dot : Utf8.encode ('.' :: rest) = 0x2E :: Utf8.encode rest := rfl
  have tail := Utf8.decode_lossy_encode rest []
  rw [List.append_nil] at tail
  rw [text, bytes, shape, dot, Utf8.decode_lossy_ascii _ _ (by decide), tail]
  simp [Utf8.decodeLossy, Utf8.pieces, Utf8.feed, Utf8.finish]

theorem chatter_free (said : Chatter) {c : Char} (ends : c = '\n' ∨ c = '\r') :
    c ∉ Utf8.decodeLossy said.bytes := by
  rcases ends with rfl | rfl
  · exact Utf8.decode_lossy_free (by decide) said.feedFree
  · exact Utf8.decode_lossy_free (by decide) said.returnFree

theorem text_free (line : OutputLine) {c : Char} (ends : c = '\n' ∨ c = '\r') : c ∉ line.text := by
  cases line with
  | chatter said => exact chatter_free said ends
  | message path written =>
      rw [text_message]
      apply List.not_mem_append (chatter_free path ends)
      exact written.render_free ends

theorem finding_text (line : OutputLine) : Kind.unused.finding? line.text = .ok line.finding? := by
  cases line with
  | chatter said => exact finding_silent said.unmarked
  | message path written =>
      rw [text_message]
      exact written.finding_render path.unmarked

end OutputLine

namespace Workspace

/-- A line end is read as a line feed, and what is in front of it and behind it is read apart. -/
theorem output_line_end (ending : LineEnd) (line : OutputLine) (rest : Bytes) :
    outputText (line.bytes ++ (ending.bytes ++ rest)) = line.text ++ '\n' :: outputText rest := by
  have free := line.text_free (Or.inr rfl)
  cases ending with
  | feed =>
      have cut : Utf8.decodeLossy (line.bytes ++ newline :: rest) =
          line.text ++ '\n' :: Utf8.decodeLossy rest := Utf8.decode_lossy_ascii _ _ (by decide)
      rw [outputText, LineEnd.bytes, List.singleton_append, cut, TextFile.unify_line free,
        TextFile.unify_feed]
      rfl
  | returnFeed =>
      have cut : Utf8.decodeLossy (line.bytes ++ carriageReturn :: newline :: rest) =
          line.text ++ '\r' :: Utf8.decodeLossy (newline :: rest) :=
        Utf8.decode_lossy_ascii _ _ (by decide)
      have again : Utf8.decodeLossy (newline :: rest) = '\n' :: Utf8.decodeLossy rest :=
        Utf8.decode_lossy_ascii [] rest (by decide)
      rw [outputText, LineEnd.bytes, List.cons_append, List.singleton_append, cut, again,
        TextFile.unify_line free, TextFile.unify_return_feed]
      rfl

theorem output_line (line : OutputLine) : outputText line.bytes = line.text := by
  have read := TextFile.unify_line (line.text_free (Or.inr rfl)) []
  rw [List.append_nil] at read
  exact read.trans (List.append_nil _)

theorem output_lines (first : OutputLine) (later : List (LineEnd × OutputLine)) :
    outputText (first.bytes ++ later.flatMap fun line => line.1.bytes ++ line.2.bytes) =
      List.intercalate ['\n'] (first.text :: later.map fun line => line.2.text) := by
  induction later generalizing first with
  | nil =>
      rw [List.flatMap_nil, List.append_nil, output_line]
      simp
  | cons second later ih =>
      rw [List.flatMap_cons, List.append_assoc, output_line_end, ih]
      rw [List.map_cons, List.intercalate_cons_cons]
      simp

theorem output_transcript (transcript : Transcript) :
    splitOn '\n' (outputText transcript.bytes) = transcript.lines.map OutputLine.text := by
  have same : outputText transcript.bytes =
      List.intercalate ['\n'] (transcript.lines.map OutputLine.text) := by
    rw [Transcript.bytes, output_lines, Transcript.lines, List.map_cons, List.map_map]
    rfl
  rw [split_on_eq, same]
  apply List.splitOn_intercalate
  · intro text member
    obtain ⟨line, -, rfl⟩ := List.mem_map.mp member
    exact line.text_free (Or.inl rfl)
  · simp [Transcript.lines]

end Workspace

/-! Findings. -/

theorem Kind.findings_map {Item : Type} {kind : Kind} {text : Item → Text}
    {finding? : Item → Option Finding}
    (each : ∀ item, kind.finding? (text item) = .ok (finding? item)) (items : List Item) :
    kind.findings (items.map text) = .ok (items.filterMap finding?) := by
  induction items with
  | nil => rfl
  | cons item rest ih =>
      rw [List.map_cons, Kind.findings, each, List.filterMap_cons]
      dsimp only
      rw [ih]
      cases finding? item <;> rfl

theorem Toggle.extract_failed {State Cause : Type} {tools : Toolchain State Cause} {kind : Kind}
    {code : Bytes} {state : State} {report : Report} {findings : List Finding}
    (uncancelled : tools.cancelled state = false) (built : (tools.build code state).1 = .ok report)
    (failed : report.success = false) (read : kind.findings report.lines = .ok findings) :
    (extract tools kind code state).1 = .ok findings := by
  have pair : tools.build code state = (.ok report, (tools.build code state).2) :=
    Prod.ext built rfl
  rw [extract, if_neg (by simp [uncancelled]), pair]
  dsimp only
  rw [if_neg (by simp [failed]), read]

namespace Workspace

theorem build_report {settings : Settings} {code : Bytes} {machine : Machine} {report : Report}
    (built : (build settings code machine).1 = .ok report) :
    report = ⟨machine.nextFate.exitStatus == 0, outputText machine.nextFate.output⟩ :=
  ((build_ok_iff settings code machine report).mp built).2

/-- What is read from the output of a failed build is what was written: the variables that its
messages name, each with the number of its line counted from zero, in order. A toggle that asks for the
unused variables gets these. -/
theorem transcript_findings (transcript : Transcript) :
    Kind.unused.findings (Report.lines ⟨false, outputText transcript.bytes⟩) =
        .ok transcript.findings ∧
      ∀ (settings : Settings) (code : Bytes) (machine : Machine) (report : Report),
        machine.nextFate.output = transcript.bytes →
        (build settings code machine).1 = .ok report → report.success = false →
          Kind.unused.findings report.lines = .ok transcript.findings ∧
          (machine.cancelled = false →
            (Toggle.extract (tools settings) .unused code machine).1 = .ok transcript.findings) := by
  have read : Kind.unused.findings (Report.lines ⟨false, outputText transcript.bytes⟩) =
      .ok transcript.findings := by
    rw [Report.lines, output_transcript]
    exact Kind.findings_map OutputLine.finding_text transcript.lines
  refine ⟨read, ?_⟩
  intro settings code machine report written built failed
  have same : report = ⟨false, outputText transcript.bytes⟩ := by
    rw [← failed, build_report built, written]
  subst same
  exact ⟨read, fun uncancelled => Toggle.extract_failed uncancelled built failed read⟩

/-- A character is cut off in front of a mark and in front of a carriage return, and a variable is
named like the beginning of a complaint. -/
def truncatedTranscript : Transcript where
  first := .chatter ⟨[0x23, 0xF0, 0x9F], by decide, by decide, by decide⟩
  later := [
    (.returnFeed, .message ⟨[0x2E, 0x67, 0xE2, 0x82], by decide, by decide, by decide⟩
      ⟨⟨['0', '7'], by decide, by simp⟩, .ofNat 12, .afterBut, "declared".toList,
        by decide, by decide, by decide, List.all_eq_true.mp (by decide)⟩),
    (.feed, .message ⟨[0x61], by decide, by decide, by decide⟩
      ⟨.ofNat 12, .ofNat 3, .before, ['_'], by rw [Numeral.value_of_nat]; decide, by decide,
        by decide, by simp; decide⟩),
    (.feed, .chatter ⟨[], by decide, by decide, by decide⟩)]

def truncatedMachine : Machine :=
  ⟨⟨[([['t', 'm', 'p']], .directory)], []⟩, [], "/tmp".toList, fun _ => ['1'],
    [(['g', 'o'], .ready)], [], [⟨1, truncatedTranscript.bytes, 0, none, .done⟩], [], true, false, [], []⟩

theorem transcript_findings_truncated :
    ∃ report, (build .default [] truncatedMachine).1 = .ok report ∧ report.success = false ∧
      Kind.unused.findings report.lines = .ok [⟨"declared".toList, 6⟩, ⟨['_'], 11⟩] ∧
      (Toggle.extract (tools .default) .unused [] truncatedMachine).1 =
        .ok [⟨"declared".toList, 6⟩, ⟨['_'], 11⟩] := by
  have findings : truncatedTranscript.findings = [⟨"declared".toList, 6⟩, ⟨['_'], 11⟩] := by decide
  have read := (transcript_findings truncatedTranscript).2 .default [] truncatedMachine _ rfl rfl rfl
  rw [findings] at read
  exact ⟨_, rfl, rfl, read.1, read.2 rfl⟩

end Workspace

end BlankUse
