import Launcher.Machine.Basic

/-! The command line: either program, started by its name on a machine with an empty directory. -/

namespace Launcher.Program

/-- The options that either program knows. -/
def rules : List Arguments.Rule := Harness.grammar.rules ++ BuildTest.grammar.rules

/-- The environment variables that either program looks at. -/
def watched : List String := filterVariable :: rules.filterMap Arguments.Rule.environment

/-- The part of the environment that either program looks at. -/
def environment : IO Arguments.Environment := do
  let values ← watched.mapM fun name => return (name, (← IO.getEnv name).map utf8)
  return values.filterMap fun (name, value) => value.map fun value => (name, value)

/-- Writes what an event shows to the two streams. -/
def emit (filter : LogFilter) (stamp : String) (event : Event) : IO Unit := do
  let write (stream : IO.FS.Stream) (bytes : Bytes) : IO Unit :=
    unless bytes.isEmpty do stream.write bytes.toByteArray
  write (← IO.getStdout) (event.shown filter stamp .out)
  write (← IO.getStderr) (event.shown filter stamp .err)

/-- The program of a name. -/
def named? (name : String) :
    Option (Arguments.Environment → List Bytes → Step (Reporter BoundedSink × Machine) Nat) :=
  (start? name).map fun start environment arguments =>
    start environment arguments {} {} (Machine.under name [])

/-- Runs a program over arguments, and gives its exit status. -/
def carryOut (name : String) (arguments : List String) : IO UInt32 := do
  match named? name with
  | none =>
    (← IO.getStderr).putStrLn ("error: no program '" ++ name ++ "'")
    return usageStatus.toUInt32
  | some program =>
    let environment ← environment
    let step := program environment (arguments.map utf8)
    step.events.forM (emit (filterOf environment) step.state.2.clock)
    return step.value.toUInt32

end Launcher.Program

/-- The first argument names the program, the others are its own. -/
def main (arguments : List String) : IO UInt32 :=
  match arguments with
  | name :: rest => Launcher.Program.carryOut name rest
  | [] => Launcher.Program.carryOut "" []
