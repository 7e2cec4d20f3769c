import Launcher.Machine.Shell.Process
import Launcher.Program.Named

/-! The launcher as a program of the machine: a script can start it in its turn. -/

namespace Launcher.Shell

/-- A way to run programs of the machine, each by what it is called and with its arguments. -/
abbrev Runner := String → Text → List Text → StateM State Ending

/-- The time that the clock of a machine shows if nothing is said about it. -/
def clock : String := "1970-01-01T00:00:00+00:00"

namespace State

/-- Whether what a descriptor leads to has room; one that leads nowhere takes everything. -/
def hasRoom (state : State) (descriptor : Nat) : Bool :=
  match state.channel? descriptor with
  | some .full => false
  | some .out => !state.outFull
  | _ => true

/-- The sink that a program finds behind a descriptor. -/
def sink (state : State) (descriptor : Nat) : BoundedSink :=
  if state.hasRoom descriptor then {} else { room := some 0, shortage := .noSpace }

/-- Runs a command of the launcher to its end, and keeps what it writes. -/
def launch (state : State) (runner : Runner) (startedAt : String) (command : CommandLine) :
    Child × State :=
  let child : Child := { ending := .exited 0, startedAt, durationMs := 0, out := [], err := [] }
  let searchPath := ((state.environment.lookup "PATH".toList).map Text.bytes).getD
    Executable.fewDirectories
  match Executable.ofCommand state.files state.directory searchPath command with
  | .error cause => ({ child with ending := .notStarted cause }, state)
  | .ok executable =>
    let called := executable.name.getD (utf8 command.program)
    let arguments := executable.leading ++ command.args.map utf8
    let program := runner executable.program (.ofBytes called) (arguments.map Text.ofBytes)
    let (ending, after) := program.run { state with out := [], err := [] }
    ({ child with ending, out := after.out.reverse.flatten, err := after.err.reverse.flatten },
      { after with out := state.out, err := state.err })

/-- The machine as the launcher sees it from within. -/
@[reducible]
def host (runner : Runner) : Host State where
  entries state path := state.files.entries state.directory path
  run state command := state.launch runner clock command

/-- The state for the children of a launcher, whose output is kept apart from that of others. -/
def apart (state : State) : State :=
  let channel (descriptor : Nat) (usual : Channel) : Channel :=
    if state.hasRoom descriptor then usual else .full
  { (state.connect 1 (some (channel 1 .out))).connect 2 (some (channel 2 .err)) with
    outFull := false }

/-- Writes bytes to a descriptor; one that leads nowhere swallows them. -/
def writeBytes (state : State) (descriptor : Nat) (bytes : Bytes) : State :=
  match state.channel? descriptor with
  | some channel => state.writeTo channel bytes
  | none => state

end State

/-- Runs the launcher under one of its names, with its streams where the descriptors lead. -/
def runLauncher (runner : Runner) (program : String) (arguments : List Text) :
    StateM State Ending := do
  let state ← get
  let _ : Host State := State.host runner
  match Program.start? program with
  | none => return .exited 127
  | some start =>
    let environment := state.environment.map fun (name, value) => (String.ofList name, value.bytes)
    let step :=
      start environment (arguments.map Text.bytes) (state.sink 1) (state.sink 2) state.apart
    let after := { step.state.2 with descriptors := state.descriptors, outFull := state.outFull }
    -- What appears on the two streams reaches their descriptors in the order in which it appeared.
    set (step.events.foldl (fun state event =>
      let shown := event.shown (Program.filterOf environment) clock
      (state.writeBytes 1 (shown .out)).writeBytes 2 (shown .err)) after)
    return .exited step.value

end Launcher.Shell
