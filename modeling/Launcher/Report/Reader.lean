import Launcher.Json.Reader
import Launcher.Report

/-! Reading a report back from JSON. -/

namespace Launcher

namespace Json

/-- The text of a string. -/
def text? : Json → Option String
  | .str text => some text
  | .null | .bool _ | .int _ | .arr _ | .obj _ => none

/-- The value of a whole number. -/
def int? : Json → Option Int
  | .int value => some value
  | .null | .bool _ | .str _ | .arr _ | .obj _ => none

/-- The value of a whole number that is not negative. -/
def nat? : Json → Option Nat
  | .int (.ofNat value) => some value
  | .int (.negSucc _) | .null | .bool _ | .str _ | .arr _ | .obj _ => none

/-- A truth value. -/
def bool? : Json → Option Bool
  | .bool value => some value
  | .null | .int _ | .str _ | .arr _ | .obj _ => none

/-- The items of a list. -/
def items? : Json → Option (List Json)
  | .arr items => some items
  | .null | .bool _ | .int _ | .str _ | .obj _ => none

end Json

/-- The outcome that a value describes by its kind and payload. -/
def Outcome.ofJson? (value : Json) : Option Outcome := do
  match ← (← value.member? "kind").text? with
  | "exited" => return .exited (← (← value.member? "code").int?)
  | "signaled" => return .signaled (← (← value.member? "signal").int?)
  | "launch_failed" => return .launchFailed (← (← value.member? "message").text?)
  | _ => none

/-- The run that a value describes. -/
def Iteration.ofJson? (value : Json) : Option Iteration := do
  return {
    index := ← (← value.member? "index").nat?
    exitCode := ← (← value.member? "exit_code").int?
    outcome := ← Outcome.ofJson? (← value.member? "outcome")
    startedAt := ← (← value.member? "started_at").text?
    durationMs := ← (← value.member? "duration_ms").nat? }

/-- The command that a list of its parts describes. -/
def CommandLine.ofJson? (value : Json) : Option CommandLine := do
  match ← (← value.items?).mapM Json.text? with
  | program :: args => return { program, args }
  | [] => none

/-- The report that a value describes, if it says that all went well and its exit codes fit. -/
def Report.ofJson? (value : Json) : Option Report := do
  let report : Report := {
    command := ← CommandLine.ofJson? (← value.member? "command")
    times := ← (← value.member? "repeat").nat?
    iterations := ← (← (← value.member? "iterations").items?).mapM Iteration.ofJson?
    interrupted := ← (← value.member? "interrupted").bool? }
  let codes ← (← (← value.member? "exit_codes").items?).mapM Json.int?
  if (← (← value.member? "ok").bool?) && codes = report.exitCodes then return report else none

end Launcher
