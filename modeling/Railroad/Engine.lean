import Railroad.Process.Bytewise
import Railroad.Regex.Search

/-!
# The engine of the program

The program runs patterns with an engine of its own as the host.
-/

namespace Railroad

/-- Runs a pattern against a subject, with the engine as the host. -/
def Bytewise.process (pattern subject template : String) (flags : Flags) :
    Text.Attempt (Except Regex.Error ProcessReport) :=
  processWith Regex.host pattern subject template flags

end Railroad
