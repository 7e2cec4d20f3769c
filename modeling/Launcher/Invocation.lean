import Launcher.CommandLine
import Launcher.Error
import Launcher.Log.Record
import Launcher.Options
import Launcher.RepeatCount
import Launcher.Settings

/-! The commands that a launch runs. -/

namespace Launcher

/-- A command and how often it is to be run. -/
structure Invocation where
  /-- The command. -/
  command : CommandLine
  /-- How often it is to be run. -/
  times : Nat
  deriving DecidableEq, Repr

namespace Invocation

/-- The option that says how often to run; it is not passed on. -/
def repeatKey : String := "repeat"

/-- An option as one argument. -/
def argument (entry : String × String) : String := entry.1 ++ "=" ++ entry.2

/-- How often the options ask to run, once if they do not say. -/
def timesOf (options : Options) : Except LaunchError Nat :=
  match options.get? repeatKey with
  | none => .ok 1
  | some text =>
    match RepeatCount.read? text with
    | some times => .ok times
    | none => .error (.invalidRepeat text)

/-- The harness command for a plan and a script. -/
def harnessCommand (settings : Settings) (options : Options) (plan script : String) :
    CommandLine where
  program := settings.java
  args :=
    ["-ea", "-jar", settings.harnessJar, settings.scriptPath script, argument ("plan", plan)] ++
      (options.erase repeatKey).entries.map argument

/-- The invocation that options and positional arguments describe: a plan, a script, and no more. -/
def harness (settings : Settings) (options : Options) (positionals : List String) :
    Except LaunchError Invocation :=
  match positionals with
  | [] => .error (.missingArgument "plan")
  | [_] => .error (.missingArgument "script_name")
  | plan :: script :: _ => do
    let times ← timesOf options
    return { command := harnessCommand settings options plan script, times }

/-- What is logged about building an invocation, in order. -/
def remarks (positionals : List String) (built : Except LaunchError Invocation) : List LogRecord :=
  -- Spare positionals are remarked on even when the number of repetitions is refused.
  let spare := positionals.drop 2
  (if spare.isEmpty then [] else [.extraPositionals spare]) ++
    match built with
    | .ok invocation => [.builtHarness invocation.command.shellText invocation.times]
    | .error _ => []

/-- The plan of a build without one. -/
def defaultPlan : String := "production"

/-- The test suite of a build without one. -/
def defaultTestsuite : String := "basic"

/-- The command that builds a plan and runs a test suite; further arguments are not used. -/
def build (settings : Settings) (positionals : List String) : CommandLine where
  program := settings.buildit
  args := [settings.host, "-t", positionals[1]?.getD defaultTestsuite,
    positionals[0]?.getD defaultPlan]

end Invocation

end Launcher
