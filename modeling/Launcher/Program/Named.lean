import Launcher.Program.BuildTest
import Launcher.Program.Harness

/-! The two programs by their names. -/

namespace Launcher.Program

/-- Runs the program of a name over two sinks and a machine, and gives its exit status. -/
def start? {δ ω : Type} [Sink δ] [Host ω] (name : String) :
    Option (Arguments.Environment → List Bytes → δ → δ → ω → Step (Reporter δ × ω) Nat) :=
  if name = Harness.name then some Harness.start
  else if name = BuildTest.name then some BuildTest.start
  else none

end Launcher.Program
