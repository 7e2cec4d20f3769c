import Launcher.Host

/-! The catalog of test scripts: which entries of a directory are scripts, and in which order. -/

namespace Launcher.Catalog

/-- Whether an entry is a regular file with an extension. -/
def isScript (extension : String) (entry : DirectoryEntry) : Bool :=
  entry.kind.isFile && (extension? entry.name).bind Utf8.text? == some extension

/-- Whether a name comes before another one or equals it, byte by byte. -/
def nameLe : Bytes → Bytes → Bool
  | [], _ => true
  | _ :: _, [] => false
  | first :: rest, other :: more => if first = other then nameLe rest more else first < other

/-- The file names of the scripts among the entries of a directory, by the order of their bytes. -/
def scripts (extension : String) (entries : List DirectoryEntry) : List String :=
  let sorted := entries.mergeSort fun first second => nameLe first.name second.name
  (sorted.filter (isScript extension)).map fun entry => Utf8.lossy entry.name

end Launcher.Catalog
