import Launcher.Text.Bytes

/-! Paths and file names: byte strings with slashes and dots. -/

namespace Launcher

/-- A path as the system takes it, any bytes without a meaning but the slash. -/
structure Path where
  /-- The bytes of the path. -/
  bytes : Bytes
  deriving DecidableEq, Repr, Inhabited

/-- The slash between components. -/
def slash : UInt8 := 0x2F

/-- The dot before an extension. -/
def dot : UInt8 := 0x2E

namespace Path

/-- The path spelled by a text. -/
def ofText (text : String) : Path := ⟨utf8 text⟩

/-- The path as text, with what is no UTF-8 replaced. -/
def text (path : Path) : String := Utf8.lossy path.bytes

/-- Whether a path starts at the root. -/
def isAbsolute (path : Path) : Bool := path.bytes.head? == some slash

/-- The pieces of a byte string between slashes, empty ones included. -/
def pieces : Bytes → List Bytes
  | [] => [[]]
  | byte :: rest =>
    if byte = slash then [] :: pieces rest
    else
      match pieces rest with
      | [] => [[byte]]
      | piece :: more => (byte :: piece) :: more

/-- The names that a path goes through; doubled slashes and single dots name nothing. -/
def components (path : Path) : List Bytes :=
  (pieces path.bytes).filter fun piece => piece ≠ [] && piece ≠ [dot]

/-- The path of a name in the directory that a path leads to. -/
def child (path : Path) (name : Bytes) : Path :=
  if path.bytes.isEmpty || path.bytes.getLast? = some slash then ⟨path.bytes ++ name⟩
  else ⟨path.bytes ++ slash :: name⟩

end Path

/-- The extension of a file name: the bytes after its last dot, unless that dot
is its first byte. -/
def extension? (name : Bytes) : Option Bytes :=
  -- Read from the end, the extension comes first and the dot ends it.
  let after := name.reverse.takeWhile (· ≠ dot)
  match name.reverse.dropWhile (· ≠ dot) with
  | _ :: stem => if stem = [] || name = [dot, dot] then none else some after.reverse
  | [] => none

end Launcher
