import Launcher.Report
import Launcher.Sink
import Launcher.Transcript

/-! The reporter: what a launch prints, as text or as JSON, over two sinks that may fail. -/

namespace Launcher

/-- What a launch prints to; in JSON mode, results are JSON lines and progress is
kept apart from them. -/
structure Reporter (δ : Type) where
  /-- Whether results are printed as JSON. -/
  json : Bool
  /-- The sink of results. -/
  out : δ
  /-- The sink of failures. -/
  err : δ
  /-- The first failure to print progress that has not been told of yet. -/
  held : Option Cause := none

/-- An attempt to print, which ends at the first failure. -/
abbrev Printing (δ α : Type) : Type := ExceptT Cause (Action (Reporter δ)) α

namespace Reporter

variable {δ : Type}

/-- The sink behind a stream. -/
def sink (reporter : Reporter δ) : Stream → δ
  | .out => reporter.out
  | .err => reporter.err

/-- Puts a sink behind a stream. -/
def withSink (reporter : Reporter δ) (stream : Stream) (sink : δ) : Reporter δ :=
  match stream with
  | .out => { reporter with out := sink }
  | .err => { reporter with err := sink }

/-- The stream of progress lines: beside the results, unless those are JSON. -/
def progressStream (json : Bool) : Stream := if json then .err else .out

/-- The bytes of a line. -/
def lineBytes (text : String) : Bytes := utf8 text ++ utf8 "\n"

/-- Success, or the cause of a failure. -/
def resultOf : Option Cause → Except Cause Unit
  | none => .ok ()
  | some cause => .error cause

section Printing

variable [Sink δ]

/-- Writes a line to a stream. -/
def writeLine (stream : Stream) (text : String) : Printing δ Unit :=
  ExceptT.mk fun reporter =>
    let (receipt, sink) := Sink.write (reporter.sink stream) (lineBytes text)
    { value := resultOf receipt.failure?
      events := [.write stream (receipt.taken (lineBytes text)) receipt.failure?]
      state := reporter.withSink stream sink }

/-- Writes lines to a stream in order. -/
def writeLines (stream : Stream) : List String → Printing δ Unit
  | [] => pure ()
  | text :: rest => do
    writeLine stream text
    writeLines stream rest

/-- Has a stream deliver what it holds back. -/
def flush (stream : Stream) : Printing δ Unit :=
  ExceptT.mk fun reporter =>
    let (failure, sink) := Sink.flush (reporter.sink stream)
    { value := resultOf failure
      events := [.flush stream failure]
      state := reporter.withSink stream sink }

/-- Writes lines to a stream and has it deliver them. -/
def deliver (stream : Stream) (lines : List String) : Printing δ Unit := do
  writeLines stream lines
  flush stream

/-- Whether results are printed as JSON. -/
def inJson : Printing δ Bool := ExceptT.lift (Action.read Reporter.json)

/-- Makes a printing attempt whose failure is held back; only the first one is kept and logged. -/
def holding (attempt : Printing δ Unit) : Action (Reporter δ) Unit := fun reporter =>
  let step := attempt.run.run reporter
  match step.value, step.state.held with
  | .error cause, none =>
    { value := ()
      events := step.events ++ [.log (.outputFailed cause.message)]
      state := { step.state with held := some cause } }
  | _, _ => { value := (), events := step.events, state := step.state }

/-- Takes the failure that is held back, if any, and fails with it. -/
def releaseHeld : Printing δ Unit :=
  ExceptT.mk fun reporter =>
    { value := resultOf reporter.held, events := [], state := { reporter with held := none } }

/-- The line that shows a command. -/
def commandLine (command : CommandLine) : String := "command: " ++ command.literalText

/-- The line that announces a run. -/
def startedLine (index : Nat) : String := "iteration #" ++ Decimal.ofNat index

/-- The line on a run that is recorded as a failed launch. -/
def failureLine (index : Nat) (message : String) : String :=
  "error: iteration #" ++ Decimal.ofNat index ++ ": " ++ message

/-- A list of exit codes in brackets. -/
def codesText (codes : List Int) : String :=
  "[" ++ String.intercalate ", " (codes.map Decimal.ofInt) ++ "]"

/-- The lines of a report as text. -/
def summaryLines (report : Report) : List String :=
  ["return codes:", codesText report.exitCodes] ++
    if report.interrupted then
      ["interrupted after " ++ Decimal.ofNat report.iterations.length ++ " of " ++
        Decimal.ofNat report.times ++ " iterations"]
    else []

/-- The line that says how a build ended. -/
def outcomeLine : Outcome → String
  | .exited code => "exited with code " ++ Decimal.ofInt code
  | .signaled signal => "killed by signal " ++ Decimal.ofInt signal
  | .launchFailed message => "not started: " ++ message

/-- A list of scripts as JSON. -/
def scriptsJson (names : List String) : Json :=
  .obj [("ok", .bool true), ("scripts", Json.texts names)]

/-- A usage line as JSON. -/
def usageJson (usage : String) : Json := .obj [("ok", .bool true), ("usage", .str usage)]

/-- Shows the command that is about to be run. -/
def command (command : CommandLine) : Printing δ Unit := do
  deliver (progressStream (← inJson)) [commandLine command]

/-- Announces a run; a failure is held back. -/
def started (index : Nat) : Action (Reporter δ) Unit :=
  holding do deliver (progressStream (← inJson)) [startedLine index]

/-- Tells of a run that is recorded as a failed launch; a failure is held back. -/
def finished (iteration : Iteration) : Action (Reporter δ) Unit :=
  match iteration.outcome with
  | .launchFailed message => holding (writeLine .err (failureLine iteration.index message))
  | .exited _ | .signaled _ => pure ()

/-- Prints a report, unless a failure was held back: then it fails with that and prints nothing. -/
def summary (report : Report) : Printing δ Unit := do
  releaseHeld
  deliver .out (if ← inJson then [report.toJson.render] else summaryLines report)

/-- Prints how a build ended. -/
def buildResult (outcome : Outcome) : Printing δ Unit :=
  deliver .out ["return state:", outcomeLine outcome]

/-- Prints the names of scripts. -/
def scripts (names : List String) : Printing δ Unit := do
  deliver .out (if ← inJson then [(scriptsJson names).render] else names)

/-- Prints a usage line. -/
def usage (text : String) : Printing δ Unit := do
  deliver .out [if ← inJson then (usageJson text).render else text]

end Printing

end Reporter

end Launcher
