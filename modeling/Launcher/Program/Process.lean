import Launcher.Log.Filter
import Launcher.Arguments.Reader
import Launcher.Launch
import Launcher.Text.Terminal

/-! A program as seen from outside: its exit status and what appears on its two streams. -/

namespace Launcher

/-- What an event makes appear on a stream of a program whose children share its streams.

Log records that the filter admits appear beside the errors, each behind a time stamp. They are not
offered to a sink, so what appears beside the errors is told only of a stream that takes
everything. -/
def Event.shown (filter : LogFilter) (stamp : String) (stream : Stream) (event : Event) : Bytes :=
  match event with
  | .write _ _ _ => event.written stream
  | .launch _ _ => event.fromChild stream
  | .log record =>
    if stream = .err && filter.admits record then Reporter.lineBytes (record.line stamp) else []
  | .flush _ _ => []

/-- What appears on a stream of a program. -/
def Transcript.shown (transcript : Transcript) (filter : LogFilter) (stamp : String)
    (stream : Stream) : Bytes :=
  transcript.flatMap (Event.shown filter stamp stream)

namespace Program

/-- The version of the programs. -/
def version : String := "0.3.0"

/-- The variable that asks for another log filter. -/
def filterVariable : String := "RUST_LOG"

/-- The log filter that an environment asks for, if it can be read. -/
def filterOf (environment : Arguments.Environment) : LogFilter :=
  (((environment.lookup filterVariable).bind Utf8.text?).bind LogFilter.read?).getD .standard

variable {δ ω : Type} [Sink δ]

/-- Writes lines to a stream; failing to do so is nobody's concern. -/
def announce (stream : Stream) (lines : List String) : Action (Reporter δ × ω) Unit := do
  let _ ← Action.first (Reporter.writeLines stream lines).run
  return ()

/-- The exit status of a program that is aborted because it cannot say why it ends. -/
def abortStatus : Nat := 101

/-- Writes the last words of a program beside the results, and gives its exit status; words that
cannot be written abort it. -/
def conclude (words : List String) (status : Nat) : Action (Reporter δ × ω) Nat := do
  match ← Action.first (Reporter.writeLines .err words).run with
  | .ok _ => return status
  | .error _ => return abortStatus

/-- Answers arguments that are not to be carried out, and gives the exit status.

There is no terminal to carry out commands, whoever they come from. -/
def answer (name : String) (grammar : Arguments.Grammar) (description : List String)
    (stop : Arguments.Stop) : Action (Reporter δ × ω) Nat :=
  let tell (stream : Stream) (lines : List String) : Action (Reporter δ × ω) Unit :=
    announce stream [Terminal.plain (String.intercalate "\n" lines)]
  match stop with
  | .version => do
    tell .out [name ++ " " ++ version]
    return 0
  | .help => do
    tell .out description
    return 0
  | .fault fault => do
    tell .err (grammar.complaint fault)
    return usageStatus

end Program

end Launcher
