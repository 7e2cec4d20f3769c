import Launcher.Error
import Launcher.Host
import Launcher.Report

/-! Running a command once or repeatedly, up to an interrupt. -/

namespace Launcher

/-- Someone who is told how a repetition advances. -/
structure Observer (σ : Type) where
  /-- A run is about to start. -/
  started : Nat → Action σ Unit
  /-- A run is over. -/
  finished : Iteration → Action σ Unit := fun _ => pure ()

/-- What an observer was told. -/
inductive Notice where
  /-- A run is about to start. -/
  | started (index : Nat)
  /-- A run is over. -/
  | finished (iteration : Iteration)
  deriving DecidableEq, Repr

namespace Observer

/-- Adds to what was told before. -/
def tell (notice : Notice) : Action (List Notice) Unit := fun notices =>
  ⟨(), [], notices ++ [notice]⟩

/-- An observer that keeps what it was told. -/
def recorder : Observer (List Notice) where
  started index := tell (.started index)
  finished iteration := tell (.finished iteration)

/-- An observer that keeps only which runs were about to start. -/
def startRecorder : Observer (List Notice) where
  started index := tell (.started index)

end Observer

namespace Child

/-- The outcome to record for a child that was to run a program. -/
def outcome (child : Child) (program : String) : Outcome :=
  match child.ending with
  | .exited code => .exited code
  | .signaled signal => .signaled signal
  | .withoutCode status => .launchFailed ("child ended without an exit code: " ++ status)
  | .notStarted cause => .launchFailed (LaunchError.launchFailure program cause).message

end Child

namespace Run

variable {σ ω : Type} [Host ω]

/-- Runs a command on the host. -/
def launch (command : CommandLine) : Action ω Child := fun world =>
  let (child, world) := Host.run world command
  ⟨child, [.launch command child], world⟩

/-- Logs that the program of a child could not be started, if so. -/
def logFailure (program : String) (child : Child) : Action ω Unit :=
  match child.ending with
  | .notStarted cause =>
    Action.log (.launchFailed (LaunchError.launchFailure program cause).message)
  | .exited _ | .signaled _ | .withoutCode _ => pure ()

/-- Runs a command and settles how it ended. -/
def attempt (command : CommandLine) : Action ω (Outcome × Child) := do
  let child ← launch command
  logFailure command.program child
  return (child.outcome command.program, child)

/-- Runs a command a single time. -/
def once (command : CommandLine) : Action ω Outcome := do
  let (outcome, _) ← attempt command
  return outcome

/-- Runs a command as one of several times. -/
def iteration (command : CommandLine) (index : Nat) : Action ω Iteration := do
  let (outcome, child) ← attempt command
  return { index, exitCode := outcome.exitCode, outcome,
           startedAt := child.startedAt, durationMs := child.durationMs }

/-- Runs a command so many times more, the first of them at an index; an interrupt ends it early. -/
def iterations (observer : Observer σ) (command : CommandLine) :
    Nat → Nat → Action (σ × ω) (List Iteration × Bool)
  | _, 0 => pure ([], false)
  | index, remaining + 1 => do
    (observer.started index).first
    Action.log (.launching index command.program)
    let iteration ← (Run.iteration command index).second
    Action.log (.iterationFinished index iteration.exitCode)
    (observer.finished iteration).first
    if iteration.outcome.isInterrupt then
      Action.log (.interrupted index)
      return ([iteration], true)
    else
      let (later, interrupted) ← iterations observer command (index + 1) remaining
      return (iteration :: later, interrupted)

/-- Runs a command repeatedly and reports on it.

A failed launch counts as a run; only an interrupted run ends the repetition. -/
def repeated (observer : Observer σ) (command : CommandLine) (times : Nat) :
    Action (σ × ω) Report := do
  let (iterations, interrupted) ← iterations observer command 0 times
  return { command, times, iterations, interrupted }

end Run

end Launcher
