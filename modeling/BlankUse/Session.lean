import BlankUse.Toggle

/-!
Toggles under a script. The script says how each build ends and whether cancellation is requested
while it runs; the session keeps the code of every build that was started and every note. When the
script is used up, builds succeed and say nothing.
-/

namespace BlankUse

structure ScriptedBuild (Cause : Type) where
  outcome : Except Cause Report
  cancels : Bool

structure Session (Cause : Type) where
  script : List (ScriptedBuild Cause)
  /-- Whether toggles look at the cancellation token at all. -/
  heeding : Bool
  cancelled : Bool
  builds : List Bytes
  notes : List Note

namespace Session

variable {Cause : Type}

def start (script : List (ScriptedBuild Cause)) (heeding : Bool) : Session Cause :=
  ⟨script, heeding, false, [], []⟩

def note (entry : Note) (session : Session Cause) : Session Cause :=
  { session with notes := session.notes ++ [entry] }

def requestCancel (session : Session Cause) : Session Cause :=
  { session.note .cancelRequested with cancelled := true }

def next (session : Session Cause) : ScriptedBuild Cause :=
  session.script.headD ⟨.ok ⟨true, []⟩, false⟩

def build (code : Bytes) (session : Session Cause) : Except Cause Report × Session Cause :=
  let scripted := session.next
  let started :=
    { session with script := session.script.drop 1, builds := session.builds ++ [code] }
  (scripted.outcome, if scripted.cancels then started.requestCancel else started)

def tools : Toolchain (Session Cause) Cause where
  build := build
  cancelled := fun session => session.heeding && session.cancelled
  note := note

end Session

end BlankUse
