import Launcher.Path
import Launcher.Transcript

/-! The machine that a launch runs on, as far as the launcher can see it. -/

namespace Launcher

/-- What a name in a directory stands for. -/
inductive EntryKind where
  /-- A regular file. -/
  | file
  /-- A directory. -/
  | directory
  /-- A device, a pipe or the like. -/
  | special
  /-- A symbolic link that leads to something. -/
  | linkTo (target : EntryKind)
  /-- Nothing that can be reached: a symbolic link to nowhere, or a path too long to follow. -/
  | dangling
  deriving DecidableEq, Repr

/-- Whether a name stands for a regular file once links are followed. -/
def EntryKind.isFile : EntryKind → Bool
  | .file => true
  | .linkTo target => target.isFile
  | .directory | .special | .dangling => false

/-- One name in a directory. -/
structure DirectoryEntry where
  /-- The name, any bytes but the slash. -/
  name : Bytes
  /-- What it stands for. -/
  kind : EntryKind
  deriving DecidableEq, Repr

/-- A machine with directories to list and programs to run. -/
class Host (ω : Type) where
  /-- The entries of a directory, in any order; a regular file has none. -/
  entries : ω → Path → Except Cause (List DirectoryEntry)
  /-- Runs a command to its end. -/
  run : ω → CommandLine → Child × ω

end Launcher
