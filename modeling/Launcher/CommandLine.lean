import Launcher.Text.Literal
import Launcher.Text.Word

/-! A program with its arguments. -/

namespace Launcher

/-- A program with its arguments. -/
structure CommandLine where
  /-- The program to start. -/
  program : String
  /-- Its arguments in order. -/
  args : List String
  deriving DecidableEq, Repr, Inhabited

namespace CommandLine

/-- The program and its arguments in one list. -/
def parts (command : CommandLine) : List String := command.program :: command.args

/-- A command is known by its parts. -/
theorem parts_inj {command other : CommandLine} :
    command.parts = other.parts ↔ command = other := by
  cases command
  cases other
  simp [parts]

/-- The command as a line that a shell splits into its parts. -/
def shellText (command : CommandLine) : String := Word.join command.parts

/-- The command as a bracketed list of literals. -/
def literalText (command : CommandLine) : String := Literal.list command.parts

end CommandLine

end Launcher
