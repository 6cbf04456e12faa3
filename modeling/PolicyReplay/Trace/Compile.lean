import PolicyReplay.Command
import PolicyReplay.Trace.Line
import PolicyReplay.Trace.Placeholder

/-!
# Compiling a trace

Every query line yields one command, in order; the first line that does not decides the error.
-/

namespace PolicyReplay.Trace

/-- A line that yields no command, and why. -/
structure LineError where
  number : Nat
  cause : Query.Error
  deriving DecidableEq, Repr

/-- The command of a line after `prepare` has been applied to its text. -/
def compileLine (prepare : String → String) (line : Line) : Except LineError Command :=
  (Command.ofLine (prepare line.text)).mapError (⟨line.number, ·⟩)

/-- The commands of query lines after `prepare` has been applied to each. -/
def compileLinesWith (prepare : String → String) (lines : List Line) :
    Except LineError (List Command) :=
  lines.mapM (compileLine prepare)

/-- The commands of a text as it stands. -/
def compileText (text : String) : Except LineError (List Command) :=
  compileLinesWith id (queryLines text)

end PolicyReplay.Trace
