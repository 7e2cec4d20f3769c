import Launcher.Json.Value

/-! How one run of a command ended. -/

namespace Launcher

/-- How one run of a command ended. -/
inductive Outcome where
  /-- The program ended by itself. -/
  | exited (code : Int)
  /-- A signal ended the program. -/
  | signaled (signal : Int)
  /-- The program was never started, or it ended without an exit code. -/
  | launchFailed (message : String)
  deriving DecidableEq, Repr

namespace Outcome

/-- The exit code recorded for a program that was never started, or that gave none. -/
def launchFailureCode : Int := -1

/-- The number of the signal that a terminal sends to interrupt a program. -/
def interruptSignal : Int := 2

/-- The number of the signal that asks a program to terminate. -/
def terminateSignal : Int := 15

/-- The exit code recorded for an outcome; a signal counts from 128 on. -/
def exitCode : Outcome → Int
  | .exited code => code
  | .signaled signal => 128 + signal
  | .launchFailed _ => launchFailureCode

/-- Whether someone stopped the program from outside. -/
def isInterrupt : Outcome → Bool
  | .signaled signal => signal = interruptSignal || signal = terminateSignal
  | .exited _ | .launchFailed _ => false

/-- The outcome as JSON, its kind beside its payload. -/
def toJson : Outcome → Json
  | .exited code => .obj [("code", .int code), ("kind", .str "exited")]
  | .signaled signal => .obj [("kind", .str "signaled"), ("signal", .int signal)]
  | .launchFailed message => .obj [("kind", .str "launch_failed"), ("message", .str message)]

end Outcome

end Launcher
