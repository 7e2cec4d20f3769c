import Launcher.Program.Process

/-! The program that launches the harness. -/

namespace Launcher.Program.Harness

/-- The name of the program. -/
def name : String := "mmtk-harness"

/-- The option for the interpreter that runs the harness. -/
def javaRule : Arguments.Rule where
  long := "java"
  role := .text
  placeholder := "JAVA"
  environment := some "MMTK_HARNESS_JAVA"

/-- The option for the archive that holds the harness. -/
def jarRule : Arguments.Rule where
  long := "jar"
  role := .text
  placeholder := "JAR"
  environment := some "MMTK_HARNESS_JAR"

/-- The option for the directory of the test scripts. -/
def scriptsDirRule : Arguments.Rule where
  long := "scripts-dir"
  role := .path
  placeholder := "SCRIPTS_DIR"
  environment := some "MMTK_HARNESS_SCRIPTS_DIR"

/-- The option for JSON. -/
def jsonRule : Arguments.Rule where
  long := "json"
  role := .flag

/-- The option for the version of the program. -/
def versionRule : Arguments.Rule where
  long := "version"
  short := some 'V'
  role := .version

/-- What the program knows: where things are, whether to print JSON, and tokens
that it passes on. Its options go unnamed in its usage line. -/
def grammar : Arguments.Grammar where
  rules := [javaRule, jarRule, scriptsDirRule, jsonRule, versionRule]
  tail := .everything
  usage := usageText

/-- What the program was asked to do. -/
structure Order where
  /-- Where things are. -/
  settings : Settings
  /-- Whether to print JSON. -/
  json : Bool
  /-- The tokens. -/
  tokens : List String
  deriving DecidableEq, Repr

/-- The order in what was given, with defaults for the rest. -/
def Order.ofGiven (given : Arguments.Given) : Order :=
  let standard : Settings := {}
  { settings := { standard with
      java := given.text javaRule.long standard.java
      harnessJar := given.text jarRule.long standard.harnessJar
      scriptsDir :=
        match given.values.lookup scriptsDirRule.long with
        | some bytes => ⟨bytes⟩
        | none => standard.scriptsDir }
    json := given.flags.contains jsonRule.long
    tokens := given.positionals }

/-- The order in arguments and environment. -/
def order (environment : Arguments.Environment) (arguments : List Bytes) :
    Except Arguments.Stop Order :=
  (grammar.read environment arguments).map Order.ofGiven

variable {δ ω : Type} [Sink δ] [Host ω]

/-- The code that stands for a failure in JSON. -/
def codeOf (status : Nat) : String :=
  if status = usageStatus then "usage_error" else "command_failed"

/-- The lines beside the results that tell of an error. -/
def complaintLines (error : LaunchError) : List String :=
  ("error: " ++ error.message) ::
    if (Failure.launch error).exitStatus = usageStatus then ["usage: " ++ usageText] else []

/-- Tells of an error and gives the exit status. -/
def fail (json : Bool) (error : LaunchError) : Action (Reporter δ × ω) Nat := do
  let status := (Failure.launch error).exitStatus
  if json then announce .out [(errorJson (codeOf status) error.message).render]
  conclude (complaintLines error) status

/-- Carries out an order and gives the exit status. -/
def execute (order : Order) : Action (Reporter δ × ω) Nat := do
  Action.log (.resolving order.tokens order.settings.java order.settings.harnessJar)
  match ← (Launch.harness order.settings order.tokens).run with
  | .ok _ => return 0
  | .error error => fail order.json error

/-- Runs the program over two sinks and a machine, and gives its exit status. -/
def start (environment : Arguments.Environment) (arguments : List Bytes) (out err : δ) (world : ω) :
    Step (Reporter δ × ω) Nat :=
  match order environment arguments with
  | .ok order => (execute order).run ({ json := order.json, out, err }, world)
  | .error stop => (answer name grammar [] stop).run ({ json := false, out, err }, world)

end Launcher.Program.Harness
