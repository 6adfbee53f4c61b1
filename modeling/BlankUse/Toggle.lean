import BlankUse.LineBuffer
import BlankUse.Log

/-!
Toggling fake usages. Code that holds usages loses them and is not built. Other code is built
twice: once to find imports without a provider, which hide unused variables and are commented out,
and once to find the unused variables, each of which gets a usage. Cancellation is looked at before
each build and nowhere else.
-/

namespace BlankUse

structure Report where
  success : Bool
  output : Text
  deriving DecidableEq, Repr

def Report.lines (report : Report) : List Text := splitOn '\n' report.output

/-- What a toggle needs of its surroundings, over a state of theirs. -/
structure Toolchain (State Cause : Type) where
  build : Bytes → State → Except Cause Report × State
  cancelled : State → Bool
  note : Note → State → State

namespace Toggle

inductive Failure (Cause : Type) where
  | build (cause : Cause)
  | diagnostic (problem : Diagnostic.Problem)
  deriving Repr

variable {State Cause : Type}

def titleOf (kind : Kind) : String := s!"'{kind.title}'"

def extract (tools : Toolchain State Cause) (kind : Kind) (code : Bytes) (state : State) :
    Except (Failure Cause) (List Finding) × State :=
  if tools.cancelled state then
    (.ok [], tools.note (.debug s!"Cancelled before extracting {titleOf kind} diagnostics") state)
  else
    match tools.build code state with
    | (.error cause, state) => (.error (.build cause), state)
    | (.ok report, state) =>
      if report.success then
        (.ok [], tools.note (.debug s!"Build succeeded, no {titleOf kind} diagnostics") state)
      else
        match kind.findings report.lines with
        | .error problem => (.error (.diagnostic problem), state)
        | .ok findings =>
          (.ok findings,
            tools.note (.debug s!"Found {findings.length} {titleOf kind} diagnostic(s)") state)

def noteCommented (tools : Toolchain State Cause) (numbers : List Int) (state : State) : State :=
  if numbers.isEmpty then state
  else tools.note
    (.debug s!"Commented out {numbers.length} import(s) without provider") state

def nameList (findings : List Finding) : String :=
  String.intercalate ", " (findings.map fun finding => String.ofList finding.name)

def noteAdded (tools : Toolchain State Cause) (findings : List Finding) (state : State) : State :=
  if findings.isEmpty then state
  else tools.note
    (.info s!"Added {findings.length} fake usage(s): {nameList findings}") state

/-- Adds usages to a buffer whose lines `hidden` are commented out, and restores those lines. -/
def addUsages (tools : Toolchain State Cause) (marker : Marker) (hidden : List Int)
    (lines : List Bytes) (state : State) : Except (Failure Cause) Bytes × State :=
  match extract tools .unused (LineBuffer.toCode lines) state with
  | (.error failure, state) => (.error failure, state)
  | (.ok unused, state) =>
    match LineBuffer.appendUsages marker unused lines with
    | ⟨_, some problem⟩ => (.error (.diagnostic problem), state)
    | ⟨lines, none⟩ =>
      match LineBuffer.uncomment hidden lines with
      | ⟨_, some problem⟩ => (.error (.diagnostic problem), state)
      | ⟨lines, none⟩ => (.ok (LineBuffer.toCode lines), noteAdded tools unused state)

def add (tools : Toolchain State Cause) (marker : Marker) (code : Bytes) (state : State) :
    Except (Failure Cause) Bytes × State :=
  match extract tools .missingProvider code state with
  | (.error failure, state) => (.error failure, state)
  | (.ok missing, state) =>
    match LineBuffer.commentOut (missing.map Finding.line) (LineBuffer.ofCode code) with
    | ⟨⟨_, some problem⟩, _⟩ => (.error (.diagnostic problem), state)
    | ⟨⟨lines, none⟩, hidden⟩ =>
      addUsages tools marker hidden lines (noteCommented tools hidden state)

def run (tools : Toolchain State Cause) (marker : Marker) (code : Bytes) (state : State) :
    Except (Failure Cause) Bytes × State :=
  match marker.strip code with
  | some removal => (.ok removal.code, tools.note (.info removal.message) state)
  | none => add tools marker code state

end Toggle

end BlankUse
