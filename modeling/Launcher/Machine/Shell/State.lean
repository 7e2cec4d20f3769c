import Launcher.Machine.FileTree
import Launcher.Machine.Shell.Command
import Launcher.Machine.Signal

/-! What a running shell knows, and what it has written and read so far. -/

namespace Launcher.Shell

/-- Where a descriptor leads. -/
inductive Channel where
  /-- The output stream. -/
  | out
  /-- The error stream. -/
  | err
  /-- The device that is always empty and takes anything. -/
  | null
  /-- The device that has no room for anything. -/
  | full
  /-- The end of a file. -/
  | file (place : Place)
  /-- The text that is being captured, counted from the outermost one. -/
  | capture (level : Nat)
  /-- Something to be read, by its number. -/
  | source (number : Nat)
  /-- A directory, out of which nothing can be read. -/
  | directory
  deriving DecidableEq, Repr

/-- What a source brings. -/
inductive Content where
  /-- A text that is known. -/
  | held (text : Bytes)
  /-- What a file holds at the time of reading. -/
  | file (place : Place)
  deriving DecidableEq, Repr

/-- Something to be read, with the number of bytes already read. -/
structure Source where
  /-- What is read. -/
  content : Content
  /-- How much of it has been read. -/
  position : Nat := 0
  deriving DecidableEq, Repr

/-- A variable. -/
structure Variable where
  /-- Its value, if it has one. -/
  value : Option Text := none
  /-- Whether it is handed on to programs. -/
  exported : Bool := false
  /-- Whether it must not change any more. -/
  fixed : Bool := false
  deriving DecidableEq, Repr

/-- The number of the process that runs the first programs. -/
def firstProcess : Nat := 4242

/-- What a running shell knows, and what it has written and read so far. -/
structure State where
  /-- The files. -/
  files : FileTree
  /-- The working directory. -/
  directory : Place
  /-- The working directory as it was gone to, links included. -/
  shownDirectory : Text
  /-- The directory gone to before. -/
  formerDirectory : Option Text := none
  /-- The variables by name, in the order in which they appeared. -/
  bindings : List (Text × Variable) := []
  /-- For each function being carried out, what its own variables were outside of it. -/
  frames : List (List (Text × Option Variable)) := []
  /-- The positional parameters. -/
  parameters : List Text := []
  /-- How many letters of the current option word have been looked at. -/
  optionOffset : Nat := 0
  /-- The name that the shell was started by. -/
  name : Text
  /-- What a complaint names besides the shell. -/
  commandName : Option Text := none
  /-- The line being carried out. -/
  line : Nat := 1
  /-- The line that the command being carried out starts on. -/
  startLine : Nat := 1
  /-- The letters of the options that are set. -/
  flags : List Char := []
  /-- The status of the last command. -/
  status : Nat := 0
  /-- Whether the command being carried out was given the output of another one. -/
  substituted : Bool := false
  /-- What to do on a signal, or at the end for number zero; nothing if empty. -/
  traps : List (Nat × Text) := []
  /-- Commands kept under names. -/
  functions : List (Text × Command) := []
  /-- How many loops are being carried out. -/
  loops : Nat := 0
  /-- Where descriptors lead. -/
  descriptors : List (Nat × Channel) := [(0, .null), (1, .out), (2, .err)]
  /-- Whether the output stream has no room for anything. -/
  outFull : Bool := false
  /-- Whether something could not be printed. -/
  outputLost : Bool := false
  /-- Whether the shell was asked to carry out a text instead of a file. -/
  givenText : Bool := false
  /-- What went to the output stream, the last piece first. -/
  out : List Bytes := []
  /-- What went to the error stream, the last piece first. -/
  err : List Bytes := []
  /-- The texts being captured, outermost first, each with its last piece first. -/
  captures : List (List Bytes) := []
  /-- What is there to be read. -/
  sources : List Source := []
  /-- The number of the process that the shell says it is. -/
  process : Nat := firstProcess
  /-- The numbers of the processes around, innermost first; the first one is the shell itself. -/
  processes : List Nat := [firstProcess, firstProcess - 1]
  /-- The greatest process number in use. -/
  lastProcess : Nat := firstProcess
  /-- Signals sent to processes and not dealt with yet. -/
  pending : List (Nat × Nat) := []
  /-- The numbers of commands that were not waited for, with their statuses, the last one first. -/
  jobs : List (Nat × Nat) := []
  /-- What is not permitted to new files. -/
  mask : Nat := 18

namespace State

/-- What is known about a variable. -/
def binding? (state : State) (name : Text) : Option Variable := state.bindings.lookup name

/-- The value of a variable. -/
def valueOf (state : State) (name : Text) : Option Text :=
  (state.binding? name).bind Variable.value

/-- Stores what is known about a variable, or that there is none. -/
def bind (state : State) (name : Text) (binding : Option Variable) : State :=
  match binding, state.binding? name with
  | some binding, some _ =>
    { state with
      bindings := state.bindings.map fun entry =>
        if entry.1 = name then (name, binding) else entry }
  | some binding, none => { state with bindings := state.bindings ++ [(name, binding)] }
  | none, _ => { state with bindings := state.bindings.filter fun entry => entry.1 ≠ name }

/-- Whether an option is set. -/
def hasFlag (state : State) (flag : Char) : Bool := state.flags.contains flag

/-- Sets an option or takes it back. -/
def setFlag (state : State) (flag : Char) (on : Bool) : State :=
  let others := state.flags.filter (· ≠ flag)
  { state with flags := if on then flag :: others else others }

/-- Gives a variable a value. -/
def assign (state : State) (name value : Text) : State :=
  let known := (state.binding? name).getD {}
  let exported := known.exported || state.hasFlag 'a'
  let state := if name = "OPTIND".toList then { state with optionOffset := 0 } else state
  state.bind name (some { known with value := some value, exported })

/-- Marks a variable as handed on to programs. -/
def handOn (state : State) (name : Text) : State :=
  state.bind name (some { (state.binding? name).getD {} with exported := true })

/-- Marks a variable as one that must not change any more. -/
def fix (state : State) (name : Text) : State :=
  state.bind name (some { (state.binding? name).getD {} with fixed := true })

/-- Whether a variable must not change any more. -/
def isFixed (state : State) (name : Text) : Bool := (state.binding? name).any Variable.fixed

/-- Sets the status of the last command. -/
def withStatus (state : State) (status : Nat) : State := { state with status }

/-- Sets the status to success or failure. -/
def succeed (state : State) (success : Bool) : State := state.withStatus (if success then 0 else 1)

/-- Where a descriptor leads, if it is open. -/
def channel? (state : State) (descriptor : Nat) : Option Channel :=
  state.descriptors.lookup descriptor

/-- Leads a descriptor somewhere, or closes it. -/
def connect (state : State) (descriptor : Nat) (channel : Option Channel) : State :=
  let others := state.descriptors.filter fun entry => entry.1 ≠ descriptor
  { state with
    descriptors := match channel with
      | some channel => (descriptor, channel) :: others
      | none => others }

/-- Writes bytes where a channel leads. -/
def writeTo (state : State) (channel : Channel) (bytes : Bytes) : State :=
  match channel with
  | .out => if state.outFull then state else { state with out := bytes :: state.out }
  | .err => { state with err := bytes :: state.err }
  | .null | .full | .source _ | .directory => state
  | .file place =>
    match state.files.node? place with
    | some (.file content executable) =>
      { state with files := state.files.store place (.file (content ++ bytes) executable) }
    | _ => state
  | .capture level => { state with captures := state.captures.modify level (bytes :: ·) }

/-- Writes text to a descriptor. -/
def write (state : State) (descriptor : Nat) (text : Text) : State :=
  if text.isEmpty then state
  else
    match state.channel? descriptor with
    | some channel => state.writeTo channel text.bytes
    | none => state

/-- Writes text to the standard output. -/
def print (state : State) (text : Text) : State := state.write 1 text

/-- Writes a complaint of a program to the standard error. -/
def complain (state : State) (text : Text) : State := state.write 2 (text ++ ['\n'])

/-- What stands in front of a complaint of the shell itself: its name, the line and
what it carries out. -/
def complaintStart (state : State) : Text :=
  state.name ++ .ofString (": " ++ Decimal.ofNat state.line ++ ": ") ++
    (state.commandName.map (· ++ [':', ' '])).getD []

/-- Writes a complaint of the shell itself. -/
def complainHere (state : State) (text : Text) : State :=
  state.complain (state.complaintStart ++ text)

/-- Why nothing can be written to the standard output. -/
def outputFailure? (state : State) : Option Cause :=
  match state.channel? 1 with
  | none | some (.source _) | some .directory => some (.system 9)
  | some .full => some .noSpace
  | some .out => if state.outFull then some .noSpace else none
  | some _ => none

/-- The bytes of a source, those already read left out. -/
def contentOf (state : State) (source : Source) : Bytes :=
  match source.content with
  | .held text => text.drop source.position
  | .file place =>
    match state.files.node? place with
    | some (.file content _) => content.drop source.position
    | _ => []

/-- What a channel brings, or why nothing can be read from it. -/
def toRead (state : State) : Channel → Except Cause Bytes
  | .directory => .error .isDirectory
  | .source number => .ok ((state.sources[number]?.map state.contentOf).getD [])
  | .null => .ok []
  | .out | .err | .full | .file _ | .capture _ => .error (.system 9)

/-- Goes on in what a channel brings. -/
def advance (state : State) (channel : Channel) (count : Nat) : State :=
  match channel with
  | .source number =>
    { state with
      sources := state.sources.modify number fun source =>
        { source with position := source.position + count } }
  | _ => state

/-- All that a channel still brings; nothing is left of it. -/
def drain (state : State) (channel : Channel) : Except Cause (Bytes × State) :=
  (state.toRead channel).map fun bytes => (bytes, state.advance channel bytes.length)

/-- The channel of the standard input, or that there is none. -/
def input (state : State) : Except Cause Channel :=
  match state.channel? 0 with
  | some channel => .ok channel
  | none => .error (.system 9)

/-- A channel to a file for writing, which is made if it is not there. -/
def openOutput (state : State) (kind : RedirectKind) (path : Text) :
    Except Cause (Channel × FileTree) := do
  let place ← state.files.findNew state.directory path.bytes
  match state.files.node? place with
  | some .directory => throw .isDirectory
  | some .null => return (.null, state.files)
  | some .full => return (.full, state.files)
  | some (.descriptor number) =>
    match state.channel? number with
    | some channel => return (channel, state.files)
    | none => throw .notFound
  | some (.program _) => throw (.system 26)
  | some (.file _ executable) =>
    if kind = .output && state.hasFlag 'C' then throw (.system 17)
    else if kind = .append then return (.file place, state.files)
    else return (.file place, state.files.store place (.file [] executable))
  | some (.link _) | none => return (.file place, state.files.store place (.file [] false))

/-- Adds something to be read, with the channel to it. -/
def addSource (state : State) (content : Content) : Channel × State :=
  (.source state.sources.length,
    { state with sources := state.sources ++ [({ content } : Source)] })

/-- Makes something readable, through a descriptor. -/
def supply (state : State) (descriptor : Nat) (content : Content) : State :=
  let (channel, state) := state.addSource content
  state.connect descriptor (some channel)

/-- A channel to a file for reading. -/
def openInput (state : State) (path : Text) : Except Cause (Channel × State) := do
  match ← state.files.open? state.directory path.bytes with
  | (place, .file _ _) => return state.addSource (.file place)
  | (_, .directory) => return (.directory, state)
  | (_, .descriptor number) =>
    match state.channel? number with
    | some channel => return (channel, state)
    | none => throw .notFound
  | (_, .null) | (_, .full) | (_, .program _) | (_, .link _) => return (.null, state)

/-- The bytes of a file, read to its end. -/
def readFile (state : State) (path : Text) : Except Cause (Bytes × State) := do
  let (channel, state) ← state.openInput path
  state.drain channel

/-- The shell's own process. -/
def self (state : State) : Nat := state.processes.headD state.process

/-- A process within this one; it is the shell as far as it knows. -/
def enter (state : State) : State :=
  let next := state.lastProcess + 1
  { state with processes := next :: state.processes, lastProcess := next }

/-- The state after a process within this one: what it wrote, read and stored remains,
the rest does not. -/
def after (outer inner : State) : State :=
  { outer with
    files := inner.files, out := inner.out, err := inner.err, captures := inner.captures
    sources := inner.sources, lastProcess := inner.lastProcess
    pending := inner.pending.filter fun entry => outer.processes.contains entry.1 }

/-- The variables that are handed on to programs, with their values. -/
def environment (state : State) : List (Text × Text) :=
  state.bindings.filterMap fun (name, known) =>
    if known.exported then known.value.map (name, ·) else none

end State

end Launcher.Shell
