import Launcher.CommandLine
import Launcher.Cause
import Launcher.Log.Record
import Launcher.Text.Bytes

/-! Computations that keep a transcript: what was written, flushed, launched and
logged, in order. -/

namespace Launcher

/-- The two streams that a program writes to. -/
inductive Stream where
  /-- Results. -/
  | out
  /-- Failures and progress beside the results. -/
  | err
  deriving DecidableEq, Repr

/-- How a child process ended, as far as the launcher is told. -/
inductive Ending where
  /-- It ended by itself. -/
  | exited (code : Int)
  /-- A signal ended it. -/
  | signaled (signal : Int)
  /-- It was started, but its status names neither an exit code nor a signal that ended it, as that
  of a child which was merely stopped; only the text of the status is known. -/
  | withoutCode (status : String)
  /-- It could not be started. -/
  | notStarted (cause : Cause)
  deriving DecidableEq, Repr

/-- What one launch of a child process amounts to. -/
structure Child where
  /-- How it ended. -/
  ending : Ending
  /-- When it was started. -/
  startedAt : String
  /-- How many milliseconds it took. -/
  durationMs : Nat
  /-- What was written to the launcher's output stream, which it shares, until it ended. Processes
  that it leaves running may write there later, which is not part of the launch. -/
  out : Bytes
  /-- What was written to the launcher's error stream, which it shares, until it ended. -/
  err : Bytes
  deriving DecidableEq, Repr

/-- One thing that happened, as seen from outside. -/
inductive Event where
  /-- A stream was asked to take bytes, took these, and may have failed behind them. -/
  | write (stream : Stream) (taken : Bytes) (failure : Option Cause)
  /-- A stream was asked to deliver what it holds back. -/
  | flush (stream : Stream) (failure : Option Cause)
  /-- A child process was launched, or its launch was tried. -/
  | launch (command : CommandLine) (child : Child)
  /-- A remark was logged. -/
  | log (record : LogRecord)
  deriving DecidableEq, Repr

namespace Event

/-- The bytes that an event adds to what a stream took from the launcher itself. -/
def written (stream : Stream) : Event → Bytes
  | .write other taken _ => if other = stream then taken else []
  | .flush _ _ | .launch _ _ | .log _ => []

/-- The bytes that an event adds to what child processes wrote. -/
def fromChild (stream : Stream) : Event → Bytes
  | .launch _ child =>
    match stream with
    | .out => child.out
    | .err => child.err
  | .write _ _ _ | .flush _ _ | .log _ => []

/-- Whether the event is a launch. -/
def isLaunch : Event → Bool
  | .launch _ _ => true
  | .write _ _ _ | .flush _ _ | .log _ => false

end Event

/-- What happened, in order. -/
abbrev Transcript := List Event

namespace Transcript

/-- What a stream took from the launcher itself. -/
def written (transcript : Transcript) (stream : Stream) : Bytes :=
  transcript.flatMap (Event.written stream)

/-- What child processes wrote to a stream. -/
def fromChildren (transcript : Transcript) (stream : Stream) : Bytes :=
  transcript.flatMap (Event.fromChild stream)

/-- The commands that were launched. -/
def launched (transcript : Transcript) : List CommandLine :=
  transcript.filterMap fun
    | .launch command _ => some command
    | _ => none

end Transcript

/-- What a computation ends with. -/
structure Step (σ α : Type) where
  /-- Its result. -/
  value : α
  /-- What happened on the way. -/
  events : Transcript
  /-- The state it leaves. -/
  state : σ

/-- A computation on a state that keeps a transcript. -/
def Action (σ α : Type) : Type := σ → Step σ α

namespace Action

variable {σ τ α β : Type}

/-- Carries a computation out from a state. -/
def run (action : Action σ α) (state : σ) : Step σ α := action state

/-- Transcripts of computations in a row are joined. -/
instance : Monad (Action σ) where
  pure value := fun state => ⟨value, [], state⟩
  bind action next := fun state =>
    let first := action.run state
    let second := (next first.value).run first.state
    ⟨second.value, first.events ++ second.events, second.state⟩

/-- A computation that only gives a value leaves no trace. -/
@[simp] theorem run_pure (value : α) (state : σ) :
    (pure value : Action σ α).run state = ⟨value, [], state⟩ := rfl

/-- Two computations in a row act on the state in turn. -/
@[simp] theorem run_bind (action : Action σ α) (next : α → Action σ β) (state : σ) :
    (action >>= next).run state =
      let first := action.run state
      let second := (next first.value).run first.state
      ⟨second.value, first.events ++ second.events, second.state⟩ := rfl

/-- Notes an event. -/
def note (event : Event) : Action σ Unit := fun state => ⟨(), [event], state⟩

/-- Notes a log record. -/
def log (record : LogRecord) : Action σ Unit := note (.log record)

/-- Looks at the state. -/
def read (view : σ → α) : Action σ α := fun state => ⟨view state, [], state⟩

/-- Acts on the first of two states. -/
def first (action : Action σ α) : Action (σ × τ) α := fun state =>
  let step := action.run state.1
  ⟨step.value, step.events, (step.state, state.2)⟩

/-- Acts on the second of two states. -/
def second (action : Action τ α) : Action (σ × τ) α := fun state =>
  let step := action.run state.2
  ⟨step.value, step.events, (state.1, step.state)⟩

end Action

end Launcher
