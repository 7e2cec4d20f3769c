import Launcher.Host

/-! A tree of files with symbolic links, and the ways to find something in it and to list it. -/

namespace Launcher

/-- What is stored under a name. -/
inductive FileNode where
  /-- A directory. -/
  | directory
  /-- A regular file and whether it may be executed. -/
  | file (content : Bytes) (executable : Bool)
  /-- A symbolic link with the path it stands for. -/
  | link (target : Bytes)
  /-- A program of the machine itself. -/
  | program (name : String)
  /-- The device that is always empty and takes anything. -/
  | null
  /-- The device that has no room for anything. -/
  | full
  /-- Whatever an open descriptor of the one who asks leads to. -/
  | descriptor (number : Nat)
  deriving DecidableEq, Repr

/-- The names from the root down to something. -/
abbrev Place := List Bytes

/-- Everything that is stored, each under its place; the root directory goes without saying. -/
structure FileTree where
  /-- What is stored where. -/
  nodes : List (Place × FileNode)
  deriving DecidableEq, Repr, Inhabited

namespace FileTree

/-- What is stored at a place. -/
def node? (tree : FileTree) : Place → Option FileNode
  | [] => some .directory
  | place => tree.nodes.lookup place

/-- Stores something at a place, in place of what was there. -/
def store (tree : FileTree) (place : Place) (node : FileNode) : FileTree where
  nodes := tree.nodes.filter (fun entry => entry.1 ≠ place) ++ [(place, node)]

/-- Removes a place and everything below it. -/
def remove (tree : FileTree) (place : Place) : FileTree where
  nodes := tree.nodes.filter fun entry => !place.isPrefixOf entry.1

/-- The names directly below a place, with what is stored there. -/
def children (tree : FileTree) (place : Place) : List (Bytes × FileNode) :=
  tree.nodes.filterMap fun (below, node) =>
    match below.getLast? with
    | some name => if below.dropLast = place then some (name, node) else none
    | none => none

/-- The most bytes that a name may have. -/
def longestName : Nat := 255

/-- The most bytes that a path may have. -/
def longestPath : Nat := 4095

/-- The most symbolic links that are followed on one way. -/
def mostLinks : Nat := 40

/-- The names that a path goes through; a slash at its end asks for a directory. -/
def steps (path : Bytes) : List Bytes :=
  let names := (Path.mk path).components
  if path.getLast? = some slash then names ++ [[dot]] else names

/-- Goes on from a place through names, following links while there are some left to follow.

A link at the very end is followed only if asked for. -/
def walk (tree : FileTree) (followLast : Bool) :
    (links : Nat) → Place → List Bytes → Except Cause Place
  | _, place, [] => .ok place
  | links, place, name :: rest =>
    if tree.node? place ≠ some .directory then .error .notDirectory
    else if name.length > longestName then .error .nameTooLong
    else if name = [dot] then walk tree followLast links place rest
    else if name = [dot, dot] then walk tree followLast links place.dropLast rest
    else
      match tree.node? (place ++ [name]), links with
      | none, _ => .error .notFound
      | some (.link target), links =>
        if rest.isEmpty && !followLast then .ok (place ++ [name])
        else
          match links with
          | 0 => .error .tooManyLinks
          | links + 1 =>
            let start := if target.head? = some slash then [] else place
            walk tree followLast links start (steps target ++ rest)
      | some _, links => walk tree followLast links (place ++ [name]) rest
termination_by links _ names => (links, names.length)

/-- Where a path leads to from a working directory. -/
def find (tree : FileTree) (workingDirectory : Place) (path : Bytes) (followLast : Bool) :
    Except Cause Place :=
  if path.isEmpty then .error .notFound
  else if path.length > longestPath then .error .nameTooLong
  else
    let start := if path.head? = some slash then [] else workingDirectory
    walk tree followLast mostLinks start (steps path)

/-- What a path leads to from a working directory, links followed. -/
def open? (tree : FileTree) (workingDirectory : Place) (path : Bytes) :
    Except Cause (Place × FileNode) := do
  let place ← tree.find workingDirectory path true
  match tree.node? place with
  | some node => .ok (place, node)
  | none => .error .notFound

/-- The byte that ends a text for the system and cannot stand inside one. -/
def hasNul (bytes : Bytes) : Bool := bytes.contains 0

/-- What a node is to someone who lists its directory. -/
def kindOf : FileNode → EntryKind
  | .directory => .directory
  | .file _ _ | .program _ => .file
  | .null | .full | .descriptor _ => .special
  | .link _ => .dangling

/-- The entry of a name in the directory of a path; what it stands for is found
by its whole path. -/
def entry (tree : FileTree) (workingDirectory : Place) (path : Path) (name : Bytes)
    (node : FileNode) : DirectoryEntry where
  name
  kind :=
    match tree.open? workingDirectory (path.child name).bytes, node with
    | .ok (_, target), .link _ => .linkTo (kindOf target)
    | .ok _, node => kindOf node
    | .error _, _ => .dangling

/-- The entries of a directory. -/
def entries (tree : FileTree) (workingDirectory : Place) (path : Path) :
    Except Cause (List DirectoryEntry) :=
  if hasNul path.bytes then .error (.other "file name contained an unexpected NUL byte")
  else do
    let (place, node) ← tree.open? workingDirectory path.bytes
    if node = .directory then
      return (tree.children place).map fun (name, node) =>
        tree.entry workingDirectory path name node
    else return []

/-- Where a new name is to be stored: its directory must be there, the name itself need not. -/
def findNew (tree : FileTree) (workingDirectory : Place) (path : Bytes) : Except Cause Place :=
  match tree.find workingDirectory path true with
  | .ok place => .ok place
  | .error cause =>
    -- The last name is split off; what stands before it must lead to a directory.
    let name := (path.reverse.takeWhile (· ≠ slash)).reverse
    let before := path.take (path.length - name.length)
    if cause ≠ .notFound || name.isEmpty then .error cause
    else do
      let place ← if before.isEmpty then .ok workingDirectory
        else tree.find workingDirectory before true
      if tree.node? place ≠ some .directory then .error .notDirectory
      else if name.length > longestName then .error .nameTooLong
      else if (tree.node? (place ++ [name])).isSome then .error cause
      else .ok (place ++ [name])

end FileTree

end Launcher
