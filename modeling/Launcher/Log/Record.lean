import Launcher.Text.Decimal
import Launcher.Text.Literal

/-! Log records: remarks on what the launcher is doing, apart from its report. -/

namespace Launcher

/-- How urgent a log record is. -/
inductive Level where
  /-- Something failed. -/
  | error
  /-- Something looks wrong. -/
  | warn
  /-- Progress. -/
  | info
  /-- Details of what is done. -/
  | debug
  /-- Every step. -/
  | trace
  deriving DecidableEq, Repr

namespace Level

/-- Position of a level, the most urgent one first. -/
def rank : Level → Nat
  | .error => 1
  | .warn => 2
  | .info => 3
  | .debug => 4
  | .trace => 5

/-- The name of a level, padded on the left to one width. -/
def label : Level → String
  | .error => "ERROR"
  | .warn => " WARN"
  | .info => " INFO"
  | .debug => "DEBUG"
  | .trace => "TRACE"

end Level

/-- A remark on what the launcher is doing. -/
structure LogRecord where
  /-- Its urgency. -/
  level : Level
  /-- The part of the launcher that it comes from. -/
  target : String
  /-- What it says. -/
  message : String
  /-- Named values that go with it, each as text. -/
  fields : List (String × String) := []
  deriving DecidableEq, Repr

namespace LogRecord

/-- The spelling of one character of a message; those that command a terminal lose their power. -/
def escape (char : Char) : List Char :=
  let code := char.toNat
  let digits := [Nat.digitChar (code / 16), Nat.digitChar (code % 16)]
  if [0x07, 0x08, 0x0C, 0x1B, 0x7F].contains code then ['\\', 'x'] ++ digits
  else if 0x80 ≤ code && code ≤ 0x9F then ['\\', 'u', '{'] ++ digits ++ ['}']
  else [char]

/-- The record as a line that starts with a time stamp. -/
def line (stamp : String) (record : LogRecord) : String :=
  let message := String.ofList (record.message.toList.flatMap escape)
  let fields := record.fields.map fun (name, value) => name ++ "=" ++ value
  stamp ++ " " ++ record.level.label ++ " " ++ record.target ++ ": " ++
    String.intercalate " " (message :: fields)

/-- The remark that positional arguments past the second are not used. -/
def extraPositionals (ignored : List String) : LogRecord where
  level := .warn
  target := "harness_runner::command"
  message := "ignoring extra positional arguments"
  fields := [("ignored", Literal.list ignored)]

/-- The remark that a harness command was built. -/
def builtHarness (shellText : String) (times : Nat) : LogRecord where
  level := .debug
  target := "harness_runner::command"
  message := "built harness command"
  fields := [("command", shellText), ("repeat", Decimal.ofNat times)]

/-- The remark that a command for a build was put together. -/
def builtBuild (shellText : String) : LogRecord where
  level := .debug
  target := "harness_runner::command"
  message := "built buildit command"
  fields := [("command", shellText)]

/-- The remark that a directory of scripts was listed. -/
def listedScripts (directory : String) (count : Nat) : LogRecord where
  level := .debug
  target := "harness_runner::catalog"
  message := "listed test scripts"
  fields := [("dir", directory), ("count", Decimal.ofNat count)]

/-- The remark that a run is about to start. -/
def launching (index : Nat) (program : String) : LogRecord where
  level := .info
  target := "harness_runner::runner"
  message := "launching"
  fields := [("iteration", Decimal.ofNat index), ("program", Literal.quote program)]

/-- The remark that a program could not be started. -/
def launchFailed (error : String) : LogRecord where
  level := .warn
  target := "harness_runner::runner"
  message := "launch failed"
  fields := [("error", error)]

/-- The remark that a run is over. -/
def iterationFinished (index : Nat) (exitCode : Int) : LogRecord where
  level := .info
  target := "harness_runner::runner"
  message := "iteration finished"
  fields := [("iteration", Decimal.ofNat index), ("exit_code", Decimal.ofInt exitCode)]

/-- The remark that an interrupt ends the repetition. -/
def interrupted (index : Nat) : LogRecord where
  level := .warn
  target := "harness_runner::runner"
  message := "child interrupted, abandoning remaining iterations"
  fields := [("iteration", Decimal.ofNat index)]

/-- The remark that a part of the output could not be written. -/
def outputFailed (error : String) : LogRecord where
  level := .warn
  target := "harness_runner::report"
  message := "report output failed"
  fields := [("error", error)]

/-- The remark that a build did not start, with the reason. -/
def buildNotStarted (reason : String) : LogRecord where
  level := .error
  target := "harness_runner"
  message := "buildit did not start " ++ reason

/-- The remark on what the harness launcher is about to resolve. -/
def resolving (tokens : List String) (java jar : String) : LogRecord where
  level := .debug
  target := "mmtk_harness"
  message := "resolving harness invocation"
  fields := [("tokens", Literal.list tokens), ("java", java), ("jar", jar)]

/-- The remark on which build is about to run. -/
def runningBuild (plan testsuite : String) : LogRecord where
  level := .debug
  target := "run_test"
  message := "running buildit"
  fields := [("plan", plan), ("testsuite", testsuite)]

end LogRecord

end Launcher
