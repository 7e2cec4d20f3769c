import Launcher.Machine.Shell.Interpreter

/-! A machine of files and a few programs, on which launches can be carried out. -/

namespace Launcher

/-- The variables that are handed on to programs unless other ones are asked for. -/
def standardEnvironment : List (String × Bytes) :=
  [("PATH", utf8 Shell.standardPath), ("HOME", utf8 "/root")]

/-- A machine of files and a few programs. -/
structure Machine where
  /-- The files. -/
  files : FileTree
  /-- The working directory. -/
  directory : Place
  /-- The variables that are handed on to programs. -/
  environment : List (String × Bytes) := standardEnvironment
  /-- The time that is shown on the clock, which stands still. -/
  clock : String := Shell.clock
  /-- Whether the stream that programs share for their output has no room for anything. -/
  outFull : Bool := false
  deriving Repr, Inhabited

/-- What is to be put under a path. -/
inductive FileKind where
  /-- A directory. -/
  | directory
  /-- A symbolic link with the path it stands for. -/
  | link (target : Path)
  /-- A regular file. -/
  | file (content : Bytes) (executable : Bool)
  deriving DecidableEq, Repr

namespace FileTree

/-- The devices by name. -/
def devices : List (String × FileNode) :=
  [("null", .null), ("full", .full), ("stdin", .descriptor 0), ("stdout", .descriptor 1),
    ("stderr", .descriptor 2)]

/-- The place of the first process among the processes. -/
def firstProcess : Place := [utf8 "proc", utf8 (Decimal.ofNat Shell.firstProcess)]

/-- The files that every machine has: programs, devices, and room for a working directory. Its first
process carries out a program that can be started again from there. -/
def standard (first : String) : FileTree where
  nodes :=
    [["bin"], ["dev"], ["dev", "fd"], ["etc"], ["home"], ["proc"], ["root"], ["tmp"],
        ["tmp", "scratch"], ["usr"], ["usr", "bin"], ["var"]].map
        (fun place => (place.map utf8, .directory)) ++
      [(firstProcess, .directory), (firstProcess ++ [utf8 "exe"], .program first)] ++
      devices.map (fun (name, node) => ([utf8 "dev", utf8 name], node)) ++
      (List.range 10).map (fun number =>
        ([utf8 "dev", utf8 "fd", utf8 (Decimal.ofNat number)], .descriptor number)) ++
      Shell.programs.flatMap fun name =>
        [([utf8 "bin", utf8 name], .program name),
          ([utf8 "usr", utf8 "bin", utf8 name], .program name)]

/-- Goes through names from a place, making the directories that are not there. -/
def makeDirectories (tree : FileTree) (place : Place) : List Bytes → FileTree × Place
  | [] => (tree, place)
  | name :: rest =>
    match tree.open? place name with
    | .ok (place, _) => makeDirectories tree place rest
    | .error _ => makeDirectories (tree.store (place ++ [name]) .directory) (place ++ [name]) rest

/-- Puts something under a path from a working directory; directories on the way are made. -/
def put (tree : FileTree) (directory : Place) (path : Path) (kind : FileKind) : FileTree :=
  let names := path.components
  match kind with
  | .directory => (makeDirectories tree directory names).1
  | kind =>
    let (tree, place) := makeDirectories tree directory names.dropLast
    match names.getLast? with
    | none => tree
    | some name =>
      match kind with
      | .directory => tree
      | .link target => tree.store (place ++ [name]) (.link target.bytes)
      | .file content executable =>
        -- Writing through a link changes what it leads to.
        let place := (tree.findNew place name).toOption.getD (place ++ [name])
        tree.store place (.file content executable)

end FileTree

namespace Machine

/-- The working directory of a new machine. -/
def home : Place := [utf8 "tmp", utf8 "scratch"]

/-- A machine whose first process carries out a program, with files put into its working directory
in order. -/
def under (first : String) (files : List (Path × FileKind)) : Machine where
  files := files.foldl (fun tree (path, kind) => tree.put home path kind) (.standard first)
  directory := home

/-- A machine under the harness program, with files put into its working directory in order. -/
def ofFiles (files : List (Path × FileKind)) : Machine := under Program.Harness.name files

/-- How many steps a script may nest. -/
def stepLimit : Nat := 1000000

/-- What programs find when they are started. -/
def shell (machine : Machine) : Shell.State where
  files := machine.files
  directory := machine.directory
  shownDirectory := Shell.Builtin.fromRoot machine.directory
  name := []
  outFull := machine.outFull
  bindings := machine.environment.map fun (name, value) =>
    (Shell.Text.ofString name, { value := some (Shell.Text.ofBytes value), exported := true })

/-- Runs a command to its end. -/
def run (machine : Machine) (command : CommandLine) : Child × Machine :=
  let (child, state) :=
    machine.shell.launch (Shell.runProgram stepLimit) machine.clock command
  (child, { machine with files := state.files })

instance : Host Machine where
  entries machine path := machine.files.entries machine.directory path
  run := run

end Machine

end Launcher
