/-!
Notes that a run leaves behind, each with a level.
-/

namespace BlankUse

inductive Level where
  | debug
  | info
  | warning
  | error
  deriving DecidableEq, Repr

def Level.rank : Level → Nat
  | .debug => 0
  | .info => 1
  | .warning => 2
  | .error => 3

def Level.word : Level → String
  | .debug => "DEBUG"
  | .info => "INFO"
  | .warning => "WARNING"
  | .error => "ERROR"

structure Note where
  level : Level
  message : String
  deriving DecidableEq, Repr

def Note.debug (message : String) : Note := ⟨.debug, message⟩
def Note.info (message : String) : Note := ⟨.info, message⟩

/-- The note left by each request to cancel. -/
def Note.cancelRequested : Note := .info "Cancellation requested"

end BlankUse
