import Launcher.CommandLine
import Launcher.Outcome

/-! The record of a repeated launch. -/

namespace Launcher

/-- The record of one run among the repetitions. -/
structure Iteration where
  /-- Position among the runs, from zero. -/
  index : Nat
  /-- Exit code recorded for the run. -/
  exitCode : Int
  /-- How the run ended. -/
  outcome : Outcome
  /-- When the run started. -/
  startedAt : String
  /-- How many milliseconds it took. -/
  durationMs : Nat
  deriving DecidableEq, Repr

/-- The record of a repeated launch. -/
structure Report where
  /-- The command that was run. -/
  command : CommandLine
  /-- How often it was to be run. -/
  times : Nat
  /-- The runs that took place, in order. -/
  iterations : List Iteration
  /-- Whether an interrupt ended the repetition. -/
  interrupted : Bool
  deriving DecidableEq, Repr

namespace Iteration

/-- One run as JSON. -/
def toJson (iteration : Iteration) : Json :=
  .obj [("duration_ms", .int iteration.durationMs), ("exit_code", .int iteration.exitCode),
    ("index", .int iteration.index), ("outcome", iteration.outcome.toJson),
    ("started_at", .str iteration.startedAt)]

end Iteration

namespace Report

/-- The exit codes of the runs in order. -/
def exitCodes (report : Report) : List Int := report.iterations.map Iteration.exitCode

/-- The whole report as JSON. -/
def toJson (report : Report) : Json :=
  .obj [("command", Json.texts report.command.parts),
    ("exit_codes", .arr (report.exitCodes.map .int)),
    ("interrupted", .bool report.interrupted),
    ("iterations", .arr (report.iterations.map Iteration.toJson)),
    ("ok", .bool true),
    ("repeat", .int report.times)]

end Report

/-- A failure as JSON: its code beside its message. -/
def errorJson (code message : String) : Json :=
  .obj [("error", .obj [("code", .str code), ("message", .str message)]), ("ok", .bool false)]

end Launcher
