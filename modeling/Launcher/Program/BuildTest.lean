import Launcher.Program.Process

/-! The program that builds a plan and runs a test suite. -/

namespace Launcher.Program.BuildTest

/-- The name of the program. -/
def name : String := "run-test"

/-- The variable that names the program to build with. -/
def builditVariable : String := "MMTK_BUILDIT"

/-- What the program knows: what to build with, a plan and a test suite. -/
def grammar : Arguments.Grammar where
  rules := [
    { long := "buildit", role := .text, placeholder := "BUILDIT"
      environment := some builditVariable },
    { long := "help", short := some 'h', role := .help },
    { long := "version", short := some 'V', role := .version }
  ]
  tail := .atMost 2
  usage := name ++ " [OPTIONS] [PLAN] [TESTSUITE]"

/-- The blanks in front of what is said about an option. -/
def column : String := "                           "

/-- The description of the program, which shows what the environment says, marked
up for a terminal. -/
def description (environment : Arguments.Environment) : List String :=
  let strong := Terminal.emphasized
  let standard : Settings := {}
  let value := ((environment.lookup builditVariable).map Utf8.lossy).getD ""
  -- Further lines of the value are moved to the right, below the first one.
  let value := String.intercalate ("\n" ++ column) (value.splitOn "\n")
  ["Build and run a test suite with buildit",
    "",
    "Usage: " ++ grammar.usage,
    "",
    "Arguments:",
    "  [PLAN]       GC plan to build [default: " ++ Invocation.defaultPlan ++ "]",
    "  [TESTSUITE]  Test suite to run [default: " ++ Invocation.defaultTestsuite ++ "]",
    "",
    "Options:",
    "      " ++ strong "--buildit" ++ " <BUILDIT>  Path to the buildit script [env: " ++
      builditVariable ++ "=" ++ value ++ "] [default: " ++ standard.buildit ++ "]",
    "  " ++ strong "-h" ++ ", " ++ strong "--help" ++ "               Print help",
    "  " ++ strong "-V" ++ ", " ++ strong "--version" ++ "            Print version"]

/-- What the program was asked to do. -/
structure Order where
  /-- Where things are. -/
  settings : Settings
  /-- The plan to build. -/
  plan : String
  /-- The test suite to run. -/
  testsuite : String
  deriving DecidableEq, Repr

/-- The order in what was given, with defaults for the rest. -/
def Order.ofGiven (given : Arguments.Given) : Order :=
  let standard : Settings := {}
  { settings := { standard with buildit := given.text "buildit" standard.buildit }
    plan := given.positionals[0]?.getD Invocation.defaultPlan
    testsuite := given.positionals[1]?.getD Invocation.defaultTestsuite }

/-- The order in arguments and environment. -/
def order (environment : Arguments.Environment) (arguments : List Bytes) :
    Except Arguments.Stop Order :=
  (grammar.read environment arguments).map Order.ofGiven

variable {δ ω : Type} [Sink δ] [Host ω]

/-- Carries out an order and gives the exit status. -/
def execute (order : Order) : Action (Reporter δ × ω) Nat := do
  Action.log (.runningBuild order.plan order.testsuite)
  match ← (Launch.build order.settings [order.plan, order.testsuite]).run with
  | .ok _ => return 0
  | .error error =>
    conclude ["error: " ++ error.message] (Failure.launch error).exitStatus

/-- Runs the program over two sinks and a machine, and gives its exit status. -/
def start (environment : Arguments.Environment) (arguments : List Bytes) (out err : δ) (world : ω) :
    Step (Reporter δ × ω) Nat :=
  match order environment arguments with
  | .ok order => (execute order).run ({ json := false, out, err }, world)
  | .error stop =>
      (answer name grammar (description environment) stop).run ({ json := false, out, err }, world)

end Launcher.Program.BuildTest
