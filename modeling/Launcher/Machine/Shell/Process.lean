import Launcher.Machine.Shell.Utility
import Launcher.Transcript

/-! How commands leave a shell, how processes end, and the states in which new ones start. -/

namespace Launcher.Shell

open Builtin (Effect)

/-- How a command leaves the shell. -/
inductive Flow where
  /-- It goes on. -/
  | normal
  /-- It ends. -/
  | exit
  /-- It is ended by a signal. -/
  | killed (signal : Nat)
  /-- So many loops are left. -/
  | leave (loops : Nat)
  /-- So many loops but the last are left, and that one goes on. -/
  | goOn (loops : Nat)
  /-- The function or file being carried out is left. -/
  | giveBack
  deriving DecidableEq, Repr

/-- The end of a process whose shell was left. -/
def endingOf (state : State) : Ending := .exited (state.status % 256 : Nat)

/-- The status that a shell gives to the end of a program. -/
def statusOf : Ending → Nat
  | .exited code => code.toNat
  | .signaled signal => 128 + signal.toNat
  | .withoutCode _ | .notStarted _ => 127

/-- Notes the end of a process; a shell speaks of most signals. -/
def note (ending : Ending) : StateM State Unit := do
  modify (·.withStatus (statusOf ending))
  match ending with
  | .signaled signal =>
    if !(Signal.silent.contains signal.toNat) then
      modify (·.complain (.ofString (Signal.description signal.toNat)))
  | .exited _ | .withoutCode _ | .notStarted _ => pure ()

/-- Leaves the shell if a failure has to end it. -/
def checkFailure (tested : Bool) (flow : Flow) : StateM State Flow := do
  let state ← get
  return if flow = .normal && state.hasFlag 'e' && !tested && state.status ≠ 0 then .exit else flow

/-- Complains and leaves the shell. -/
def giveUp (complaint : Text) : StateM State Flow := do
  modify fun state => (state.complainHere complaint).withStatus 2
  return .exit

/-- Carries out a builtin; whether its failure ends the shell is up to its name. -/
def runBuiltin (ends : Bool) (name : Text) (effect : Effect Nat) : StateM State Flow := do
  let before := (← get).commandName
  modify fun state => { state with commandName := some name }
  let flow ← (do
    match ← effect.run with
    | .ok status =>
      let lost := (← get).outputLost
      if lost then modify (·.complainHere (name ++ .ofString ": I/O error"))
      modify (·.withStatus (if lost then status ||| 1 else status))
      return .normal
    | .error complaint =>
      modify fun state => (state.complainHere complaint).withStatus 2
      return if ends then Flow.exit else .normal : StateM State Flow)
  modify fun state => { state with commandName := before, outputLost := false }
  return flow

/-- The programs that a machine keeps as files, by name. -/
def programs : List String := ["sh", "dash", "env"] ++ Utility.table.map Prod.fst

/-- The state in which a command inside of the shell's own process is carried out by another one. -/
def State.subshell (state : State) : State :=
  { state.enter with traps := state.traps.filter fun trap => trap.1 ≠ 0 && trap.2.isEmpty }

/-- The directories in which a shell looks for programs if nothing is said about them. -/
def standardPath : String := "/usr/local/sbin:/usr/local/bin:/usr/sbin:/usr/bin:/sbin:/bin"

/-- The state in which a new shell starts, with the variables that are handed on to it. -/
def State.newShell (state : State) (called : Text) : State :=
  let text (string : String) : Text := string.toList
  let known := state.environment.map fun (name, value) =>
    (name, ({ value := some value, exported := true } : Variable))
  let defaults : List (Text × Text) := [
    (text "PATH", text standardPath),
    (text "PS1", text "# "), (text "PS2", text "> "), (text "PS4", text "+ "),
    (text "IFS", text " \t\n"), (text "OPTIND", text "1"),
    (text "PPID", (Decimal.ofNat (state.processes.getD 1 1)).toList)]
  let shown :=
    match state.valueOf (text "PWD") with
    | some path =>
      match state.files.open? [] path.bytes with
      | .ok (place, _) =>
        if place = state.directory && path.head? = some '/' then path
        else Builtin.fromRoot state.directory
      | .error _ => Builtin.fromRoot state.directory
    | none => Builtin.fromRoot state.directory
  let start : State :=
    { files := state.files, directory := state.directory, shownDirectory := shown
      name := called, line := 0, bindings := known.filter fun entry => Command.isName entry.1
      traps := state.traps.filter fun trap => trap.1 ≠ 0 && trap.2.isEmpty
      descriptors := state.descriptors, outFull := state.outFull
      out := state.out, err := state.err, captures := state.captures, sources := state.sources
      process := state.self, processes := state.processes, lastProcess := state.lastProcess
      pending := state.pending, mask := state.mask }
  let defaults := defaults.filter fun (name, _) =>
    !(name = text "PATH" && (start.valueOf name).isSome)
  let start := defaults.foldl (fun start (name, value) => start.assign name value) start
  (start.assign (text "PWD") shown).handOn (text "PWD")

end Launcher.Shell
