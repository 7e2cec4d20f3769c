import Launcher.Catalog
import Launcher.Invocation
import Launcher.Reporter
import Launcher.Request
import Launcher.Run

/-! Launching the harness or a build: from tokens to a report. -/

namespace Launcher

/-- The usage line of the harness launcher. -/
def usageText : String := "mmtk-harness <plan> <script_name> [key=value ...] [--ls] [--help]"

/-- A launch over a reporter and a machine, which ends at the first error. -/
abbrev Launching (δ ω α : Type) : Type := ExceptT LaunchError (Action (Reporter δ × ω)) α

/-- Has an observer's notices printed. -/
def Reporter.observer {δ : Type} [Sink δ] : Observer (Reporter δ) where
  started := Reporter.started
  finished := Reporter.finished

namespace Launch

variable {δ ω : Type}

/-- A launch that only gives a result or an error. -/
def settle {α : Type} (result : Except LaunchError α) : Launching δ ω α := ExceptT.mk (pure result)

/-- Logs records in order. -/
def logAll : List LogRecord → Launching δ ω Unit
  | [] => pure ()
  | record :: rest => do
    ExceptT.lift (Action.log record)
    logAll rest

/-- Prints; a failure to print ends the launch. -/
def print {α : Type} (printing : Printing δ α) : Launching δ ω α :=
  ExceptT.adapt LaunchError.output (ExceptT.mk printing.run.first)

/-- Carries out something that cannot end the launch. -/
def perform {α : Type} (action : Action (Reporter δ × ω) α) : Launching δ ω α := ExceptT.lift action

variable [Sink δ] [Host ω]

/-- The names of the scripts in a directory. -/
def listScripts (directory : Path) (extension : String) : Launching δ ω (List String) := do
  let world ← perform (Action.read Prod.snd)
  match Host.entries world directory with
  | .error cause => settle (.error (.scriptsDirectory directory cause))
  | .ok entries =>
    let names := Catalog.scripts extension entries
    logAll [.listedScripts directory.text names.length]
    return names

/-- Carries out what the tokens of the harness launcher ask for.

Nothing is reported for a list of scripts or a usage line. -/
def harness (settings : Settings) (tokens : List String) : Launching δ ω (Option Report) := do
  match ← settle (Request.ofTokens .defaults tokens) with
  | .listScripts =>
    let names ← listScripts settings.scriptsDir settings.scriptExtension
    print (Reporter.scripts names)
    return none
  | .help =>
    print (Reporter.usage usageText)
    return none
  | .launch options positionals =>
    let built := Invocation.harness settings options positionals
    logAll (Invocation.remarks positionals built)
    let invocation ← settle built
    print (Reporter.command invocation.command)
    let report ← perform (Run.repeated Reporter.observer invocation.command invocation.times)
    print (Reporter.summary report)
    return some report

/-- Logs why the launch of a build failed, if so. -/
def logNotStarted : Outcome → Launching δ ω Unit
  | .launchFailed message => logAll [.buildNotStarted message]
  | .exited _ | .signaled _ => pure ()

/-- Builds a plan and runs a test suite once. -/
def build (settings : Settings) (positionals : List String) : Launching δ ω Outcome := do
  let command := Invocation.build settings positionals
  logAll [.builtBuild command.shellText]
  print (Reporter.command command)
  let outcome ← perform (Run.once command).second
  logNotStarted outcome
  print (Reporter.buildResult outcome)
  return outcome

end Launch

end Launcher
