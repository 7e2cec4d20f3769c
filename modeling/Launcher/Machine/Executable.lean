import Launcher.Machine.FileTree

/-! What a path or a program name makes a machine execute. -/

namespace Launcher

/-- A program of the machine and the arguments that come before the given ones. -/
structure Executable where
  /-- Which program it is. -/
  program : String
  /-- The path that it is called by, if scripts ask for it. -/
  name : Option Bytes := none
  /-- Arguments in front, as the first lines of scripts ask for. -/
  leading : List Bytes := []
  deriving DecidableEq, Repr

namespace Executable

/-- Whether a byte is a blank inside a line. -/
def isBlank (byte : UInt8) : Bool := byte = 0x20 || byte = 0x09

/-- Bytes without the blanks at their two ends. -/
def trim (bytes : Bytes) : Bytes :=
  ((bytes.dropWhile isBlank).reverse.dropWhile isBlank).reverse

/-- How many bytes of a file are looked at to find out what it is. -/
def headerSize : Nat := 256

/-- The bytes up to the first zero. -/
def untilZero (bytes : Bytes) : Bytes := bytes.takeWhile (· ≠ 0)

/-- The path in a line without blanks around it, and one argument behind it. -/
def splitLine (line : Bytes) : Bytes × List Bytes :=
  let path := (untilZero line).takeWhile (!isBlank ·)
  match line.drop path.length with
  | [] | 0 :: _ => (path, [])
  | after => (path, [untilZero (after.dropWhile isBlank)])

/-- The interpreter in the first line of a script, and one argument for it.

Zeros follow a file that is shorter than what is looked at. A line without an end there is cut off
before the last byte, but only if its path has an end. -/
def interpreter? (content : Bytes) : Option (Bytes × List Bytes) :=
  match content with
  | 0x23 :: 0x21 :: rest =>
    let header := rest.take (headerSize - 2)
    let header := header ++ List.replicate (headerSize - 2 - header.length) 0
    let line :=
      if (untilZero header).contains 0x0A then trim (header.takeWhile (· ≠ 0x0A))
      else if (header.dropWhile isBlank).any fun byte => isBlank byte || byte = 0 then
        trim header.dropLast
      else []
    if line.isEmpty then none else some (splitLine line)
  | _ => none

/-- How many files may take part in an execution, the last of which is a program. -/
def mostFiles : Nat := 6

/-- What a path executes; interpreters are followed while there are files left
that may take part. -/
def ofPath (files : FileTree) (directory : Place) (left : Nat) (path : Bytes) :
    Except Cause Executable := do
  match left, ← files.open? directory path with
  | 0, (_, .program _) | 0, (_, .file _ true) => throw .tooManyLinks
  | _ + 1, (_, .program program) => return { program }
  | left + 1, (_, .file content true) =>
    match interpreter? content with
    | none => throw .notExecutable
    -- No path at all leads to the working directory.
    | some ([], _) => throw .denied
    | some (interpreter, arguments) =>
      let executable ← ofPath files directory left interpreter
      return { executable with
        name := executable.name.or (some interpreter)
        leading := executable.leading ++ arguments ++ [path] }
  | _, _ => throw .denied

/-- The byte between the directories in which programs are looked for. -/
def colon : UInt8 := 0x3A

/-- The directories in which programs are looked for if nothing is said about them. -/
def fewDirectories : Bytes := utf8 "/bin:/usr/bin"

/-- The paths that a program may have; no directory at all is the working directory. -/
def candidates (searchPath name : Bytes) : List Bytes :=
  (searchPath.splitOn colon).map fun directory =>
    if directory.isEmpty then name else directory ++ slash :: name

/-- The first path that executes something; one without permission counts only if
there is no other. -/
def search (files : FileTree) (directory : Place) (missing : Cause) :
    List Bytes → Except Cause Executable
  | [] => .error missing
  | path :: rest =>
    match ofPath files directory mostFiles path with
    | .ok executable => .ok executable
    | .error cause =>
      if cause = .notFound || cause = .notDirectory then search files directory missing rest
      else if cause = .denied then search files directory .denied rest
      else .error cause

/-- What a program's name executes: a path if there is a slash in it, else a program looked for. -/
def locate (files : FileTree) (directory : Place) (searchPath name : Bytes) :
    Except Cause Executable :=
  if name.isEmpty then .error .notFound
  else if name.contains slash then ofPath files directory mostFiles name
  else if name.length > FileTree.longestName then .error .nameTooLong
  else search files directory .notFound (candidates searchPath name)

/-- The most bytes that one argument may have. -/
def longestArgument : Nat := 131071

/-- The most bytes that all arguments may have together. -/
def longestCommand : Nat := 2097152

/-- What a command executes, or why it cannot be started. -/
def ofCommand (files : FileTree) (directory : Place) (searchPath : Bytes) (command : CommandLine) :
    Except Cause Executable :=
  let texts := command.parts.map utf8
  if texts.any FileTree.hasNul then .error (.other "nul byte found in provided data")
  else if texts.any (fun text => text.length > longestArgument) ||
      texts.flatten.length > longestCommand then .error .argumentsTooLong
  else locate files directory searchPath (utf8 command.program)

end Executable

end Launcher
