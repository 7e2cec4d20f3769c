import Launcher.Machine.Shell.Builtin
import Launcher.Machine.Shell.Quoted

/-! The programs of the machine that are no shells. -/

namespace Launcher.Shell.Utility

open Builtin (Effect say)

/-- Ends with a complaint and a hint at how the program is used. -/
def misuse {α : Type} (called complaint : Text) : Effect α :=
  throw (complaint ++ .ofString "\nTry '" ++ called ++ .ofString " --help' for more information.")

/-- Complains without ending; this is a failure. -/
def warn (called complaint : Text) : Effect Nat := do
  modify (·.complain (called ++ [':', ' '] ++ complaint))
  return 1

/-- A complaint about a file. -/
def about (start : String) (name : Text) (cause : Cause) : Text :=
  .ofString start ++ Quoted.always name ++ .ofString (": " ++ cause.description)

/-- The options of a word by their letters, the last of which may have an argument. -/
def letters (called : Text) (plain withArgument : List Char) (word : Text) (rest : List Text) :
    Effect (List (Char × Text) × List Text) := do
  match word with
  | [] => return ([], rest)
  | letter :: more =>
    if withArgument.contains letter then
      match more, rest with
      | [], [] =>
        misuse called (.ofString "option requires an argument -- '" ++ [letter] ++ ['\''])
      | [], argument :: rest => return ([(letter, argument)], rest)
      | more, rest => return ([(letter, more)], rest)
    else if plain.contains letter then
      let (found, rest) ← letters called plain withArgument more rest
      return ((letter, []) :: found, rest)
    else misuse called (.ofString "invalid option -- '" ++ [letter] ++ ['\''])

/-- The options among words, and the other words. -/
def options (called : Text) (plain withArgument : List Char) (fuel : Nat) (words : List Text) :
    Effect (List (Char × Text) × List Text) := do
  match fuel, words with
  | 0, _ | _, [] => return ([], words)
  | _, ['-', '-'] :: rest => return ([], rest)
  | _, ('-' :: '-' :: long) :: _ =>
    misuse called (.ofString "unrecognized option '--" ++ long ++ ['\''])
  | fuel + 1, ('-' :: letter :: more) :: rest =>
    let (found, rest) ← letters called plain withArgument (letter :: more) rest
    let (later, rest) ← options called plain withArgument fuel rest
    return (found ++ later, rest)
  | fuel + 1, word :: rest =>
    let (found, rest) ← options called plain withArgument fuel rest
    return (found, word :: rest)

/-- The letters of the options among words, and the other words. -/
def flags (called : Text) (plain : List Char) (words : List Text) :
    Effect (List Char × List Text) := do
  let (found, rest) ← options called plain [] (words.length + 1) words
  return (found.map Prod.fst, rest)

/-- Does something for each word; the greatest status counts. -/
def forEach (words : List Text) (act : Text → Effect Nat) : Effect Nat :=
  words.foldlM (fun status word => return max status (← act word)) 0

/-- The value of a digit in a base, if it is one. -/
def digitsAt (base most : Nat) (text : Text) : Text :=
  (text.take most).takeWhile (Arithmetic.isDigitIn base)

/-- A text with its escapes carried out, and whether an escape ended the output. -/
def unescape (fuel : Nat) (text : Text) : Text × Bool :=
  match fuel, text with
  | 0, _ | _, [] => ([], false)
  | fuel + 1, '\\' :: char :: rest =>
    let code (base : Nat) (digits : Text) : Char :=
      Char.ofNat ((Arithmetic.digits base digits).1 % 256)
    let (escaped, after) : Text × Text :=
      match char, digitsAt 16 2 rest, digitsAt 8 3 rest with
      | 'x', [], _ => (['\\', 'x'], rest)
      | 'x', digits, _ => ([code 16 digits], rest.drop digits.length)
      | '0', _, digits => ([code 8 digits], rest.drop digits.length)
      | char, _, _ =>
        if Printf.isOctal char then
          let digits := digitsAt 8 3 (char :: rest)
          ([code 8 digits], (char :: rest).drop digits.length)
        else (((Printf.letterEscape? char).map ([·])).getD ['\\', char], rest)
    if char = 'c' then ([], true)
    else
      let (later, ended) := unescape fuel after
      (escaped ++ later, ended)
  | fuel + 1, char :: rest =>
    let (later, ended) := unescape fuel rest
    (char :: later, ended)

/-- Prints words with blanks between them. -/
def echo (_ : Text) (words : List Text) : Effect Nat := do
  let isOption (word : Text) : Bool :=
    word.length > 1 && word.head? = some '-' && word.tail.all (['n', 'e', 'E'].contains ·)
  let chosen := (words.takeWhile isOption).flatten
  let joined := List.intercalate [' '] (words.dropWhile isOption)
  let escapes := (chosen.filter (· ≠ 'n')).getLast? = some 'e' && chosen.contains 'e'
  let (text, ended) := if escapes then unescape (joined.length + 1) joined else (joined, false)
  say (if chosen.contains 'n' || ended then text else text ++ ['\n'])
  return 0

/-- The bytes of a file, or of the input under the name of a hyphen. -/
def contentOf (name : Text) : Effect (Except Cause Bytes) := do
  let state ← get
  match if name = ['-'] then state.input >>= state.drain else state.readFile name with
  | .ok (bytes, state) =>
    set state
    return .ok bytes
  | .error cause => return .error cause

/-- The lines of a text, each with its end. -/
def lines (text : Text) : List Text :=
  text.foldr (fun char lines =>
    match char, lines with
    | '\n', lines => ['\n'] :: lines
    | char, [] => [[char]]
    | char, line :: later => (char :: line) :: later) []

/-- A number filled up with blanks in front of it. -/
def aligned (width number : Nat) : Text :=
  let digits := Nat.toDigits 10 number
  List.replicate (width - digits.length) ' ' ++ digits

/-- Lines with what was asked for: numbers, also of empty lines if so, and marks
at tabs and ends. -/
def marked (asked : List Char) (number : Nat) (text : List Text) : Text :=
  match text with
  | [] => []
  | line :: later =>
    let numbered := asked.contains 'b' && line ≠ ['\n'] || !asked.contains 'b' && asked.contains 'n'
    let front := if numbered then aligned 6 number ++ ['\t'] else []
    let line := line.flatMap fun char =>
      if char = '\n' && ['E', 'e', 'A'].any (asked.contains ·) then ['$', '\n']
      else if char = '\t' && ['T', 't', 'A'].any (asked.contains ·) then ['^', 'I']
      else [char]
    front ++ line ++ marked asked (if numbered then number + 1 else number) later

/-- Prints files one after the other, or the input. -/
def concatenate (called : Text) (words : List Text) : Effect Nat := do
  let (asked, names) ← flags called "AbeEnstTuv".toList words
  let names := if names.isEmpty then [['-']] else names
  let (text, status) ← names.foldlM (fun (text, status) name => do
    match ← contentOf name with
    | .ok bytes => return (text ++ [Text.ofBytes bytes], status)
    | .error cause =>
      let _ ← warn called (Quoted.beforeColon name ++ .ofString (": " ++ cause.description))
      return (text, 1)) (([], 0) : List Text × Nat)
  let text := text.flatten
  say (if asked.all (['s', 'u', 'v'].contains ·) then text else marked asked 1 (lines text))
  return status

/-- Prints arguments in a format. -/
def printf (called : Text) (words : List Text) : Effect Nat := do
  let words := if words.head? = some ['-', '-'] then words.tail else words
  match words with
  | [] => misuse called (.ofString "missing operand")
  | format :: arguments =>
    let progress := Printf.format format arguments
    progress.complaints.reverse.forM fun complaint => do
      let _ ← warn called complaint
    say progress.text
    match progress.broken with
    | some complaint => throw complaint
    | none => return if progress.complaints.isEmpty then 0 else 1

/-- Prints the working directory. -/
def printDirectory (called : Text) (words : List Text) : Effect Nat := do
  let (_, names) ← flags called ['L', 'P'] words
  if !names.isEmpty then
    let _ ← warn called (.ofString "ignoring non-option arguments")
  say (Builtin.fromRoot (← get).directory ++ ['\n'])
  return 0

/-- The last name of a path. -/
def lastName (path : Text) : Text :=
  let path := (path.reverse.dropWhile (· = '/')).reverse
  (path.reverse.takeWhile (· ≠ '/')).reverse

/-- Removes files. -/
def remove (called : Text) (words : List Text) : Effect Nat := do
  let (asked, names) ← flags called "dfiIrRv".toList words
  let deep := asked.contains 'r' || asked.contains 'R'
  if names.isEmpty && !asked.contains 'f' then misuse called (.ofString "missing operand")
  else
    forEach names fun name => do
      let state ← get
      match state.files.find state.directory name.bytes false with
      | .error cause =>
        if asked.contains 'f' && (cause = .notFound || cause = .notDirectory) then return 0
        else warn called (about "cannot remove " name cause)
      | .ok place =>
        let isDirectory := state.files.node? place = some .directory
        if deep && isDirectory && ([['.'], ['.', '.']].contains (lastName name)) then
          warn called (.ofString "refusing to remove '.' or '..' directory: skipping " ++
            Quoted.always name)
        else if (state.files.node? place).isNone then
          if asked.contains 'f' then return 0
          else warn called (about "cannot remove " name .notFound)
        else if isDirectory && !deep && !(asked.contains 'd') then
          warn called (about "cannot remove " name .isDirectory)
        else if isDirectory && !deep && !(state.files.children place).isEmpty then
          warn called (about "cannot remove " name (.system 39))
        else
          set { state with files := state.files.remove place }
          return 0

/-- Removes empty directories. -/
def removeDirectories (called : Text) (words : List Text) : Effect Nat := do
  let (_, names) ← flags called ['p', 'v'] words
  if names.isEmpty then misuse called (.ofString "missing operand")
  else
    forEach names fun name => do
      let state ← get
      let complain (cause : Cause) : Effect Nat :=
        warn called (about "failed to remove " name cause)
      match state.files.find state.directory name.bytes false with
      | .error cause => complain cause
      | .ok place =>
        match state.files.node? place with
        | none => complain .notFound
        | some .directory =>
          if (state.files.children place).isEmpty then
            set { state with files := state.files.remove place }
            return 0
          else complain (.system 39)
        | some _ => complain .notDirectory

/-- Makes the directories of a path that are not there. -/
def makePath (files : FileTree) (place : Place) : List Bytes → Except Cause FileTree
  | [] => .ok files
  | name :: rest =>
    match files.open? place name with
    | .ok (place, .directory) => makePath files place rest
    | .ok _ => .error (if rest.isEmpty then .system 17 else .notDirectory)
    | .error .notFound =>
      let place := place ++ [name]
      makePath (files.store place .directory) place rest
    | .error cause => .error cause

/-- Makes directories. -/
def makeDirectories (called : Text) (words : List Text) : Effect Nat := do
  let (found, names) ← options called ['p', 'v'] ['m'] (words.length + 1) words
  if names.isEmpty then misuse called (.ofString "missing operand")
  else
    forEach names fun name => do
      let state ← get
      let made : Except Cause FileTree :=
        if found.any (·.1 = 'p') && !name.isEmpty then
          makePath state.files (if name.head? = some '/' then [] else state.directory)
            (Path.mk name.bytes).components
        else do
          let bare := (name.reverse.dropWhile (· = '/')).reverse
          let bare := if bare.isEmpty then name else bare
          let place ← state.files.findNew state.directory bare.bytes
          if (state.files.node? place).isSome then throw (.system 17)
          return state.files.store place .directory
      match made with
      | .ok files =>
        set { state with files }
        return 0
      | .error cause => warn called (about "cannot create directory " name cause)

/-- Makes sure that files are there. -/
def touch (called : Text) (words : List Text) : Effect Nat := do
  let (found, names) ← options called "acfhm".toList "drt".toList (words.length + 1) words
  if names.isEmpty then misuse called (.ofString "missing file operand")
  else
    forEach names fun name => do
      let state ← get
      match state.openOutput .append name with
      | .ok (_, files) =>
        if !(found.any (·.1 = 'c')) then set { state with files }
        return 0
      | .error cause =>
        if cause = .isDirectory || cause = .system 26 then return 0
        else warn called (about "cannot touch " name cause)

/-- Whether owner, group and others may execute a file. -/
abbrev Permission := Bool × Bool × Bool

/-- A change of who may execute a file, as a clause says that changes modes. -/
def clause? (clause : Text) : Option (Permission → Permission) :=
  let who := clause.takeWhile (['u', 'g', 'o', 'a'].contains ·)
  match clause.drop who.length with
  | [] => none
  | sign :: letters =>
    let all := who.isEmpty || who.contains 'a'
    let named (letter : Char) : Bool := all || who.contains letter
    let mentions := letters.contains 'x'
    let change (isNamed before : Bool) : Bool :=
      if !isNamed then before
      else
        match sign with
        | '+' => before || mentions
        | '-' => before && !mentions
        | _ => mentions
    if ['+', '-', '='].contains sign && letters.all (['r', 'w', 'x', 'X', 's', 't'].contains ·) then
      some fun (owner, group, others) =>
        (change (named 'u') owner, change (named 'g') group, change (named 'o') others)
    else none

/-- A change of who may execute a file, as a whole mode says. -/
def mode? (mode : Text) : Option (Permission → Permission) :=
  if mode.isEmpty then none
  else if mode.all Printf.isOctal then
    let value := (Arithmetic.digits 8 mode).1
    if value > 4095 then none
    else some fun _ => (value / 64 % 2 = 1, value / 8 % 2 = 1, value % 2 = 1)
  else
    (mode.splitOn ',').foldlM (fun change clause =>
      (clause? clause).map fun later => later ∘ change) (id : Permission → Permission)

/-- Changes whether files may be executed. -/
def changeMode (called : Text) (words : List Text) : Effect Nat := do
  let isFlag (word : Text) : Bool :=
    word.head? = some '-' && word.length > 1 && word.tail.all (['R', 'c', 'f', 'v'].contains ·)
  match words.filter fun word => !(isFlag word || word = ['-', '-']) with
  | [] => misuse called (.ofString "missing operand")
  | [mode] => misuse called (.ofString "missing operand after " ++ Quoted.always mode)
  | mode :: names =>
    match mode? mode with
    | none => misuse called (.ofString "invalid mode: " ++ Quoted.always mode)
    | some change =>
      forEach names fun name => do
        let state ← get
        match state.files.open? state.directory name.bytes with
        | .ok (place, .file content executable) =>
          let (owner, group, others) := change (executable, executable, executable)
          set { state with
            files := state.files.store place (.file content (owner || group || others)) }
          return 0
        | .ok _ => return 0
        | .error cause => warn called (about "cannot access " name cause)

/-- Waits for a while, which is over at once. -/
def sleep (called : Text) (words : List Text) : Effect Nat := do
  let (_, words) ← flags called [] words
  if words.isEmpty then misuse called (.ofString "missing operand")
  let isInterval (word : Text) : Bool :=
    let digits := word.dropWhile fun char => char.isDigit || char = '.'
    word.any Char.isDigit && (digits.isEmpty || (['s', 'm', 'h', 'd'].map ([·])).contains digits)
  match words.filter (!isInterval ·) with
  | [] => return 0
  | bad =>
    let complaints := bad.map (Text.ofString "invalid time interval " ++ Quoted.always ·)
    misuse called (List.intercalate (['\n'] ++ called ++ [':', ' ']) complaints)

/-- Where something is to be stored that gets a name, perhaps in a directory. -/
def destination (state : State) (name source : Text) : Except Cause Place :=
  match state.files.open? state.directory name.bytes with
  | .ok (place, .directory) => state.files.findNew place (lastName source).bytes
  | _ => state.files.findNew state.directory name.bytes

/-- Stores files under other names, as a function does with each. -/
def transfer (called : Text) (names : List Text) (act : Text → Text → Effect Nat) : Effect Nat := do
  match names.reverse with
  | [] => misuse called (.ofString "missing file operand")
  | [name] =>
    misuse called (.ofString "missing destination file operand after " ++ Quoted.always name)
  | target :: sources =>
    let state ← get
    let isDirectory := (state.files.open? state.directory target.bytes).toOption.any
      fun found => found.2 = .directory
    if sources.length > 1 && !isDirectory then throw (about "target " target .notFound)
    else forEach sources.reverse (act · target)

/-- Copies files. -/
def copy (called : Text) (words : List Text) : Effect Nat := do
  let (_, names) ← flags called "afipruRv".toList words
  transfer called names fun source target => do
    let state ← get
    match state.files.open? state.directory source.bytes with
    | .error cause => warn called (about "cannot stat " source cause)
    | .ok (_, .directory) =>
      warn called (.ofString "-r not specified; omitting directory " ++ Quoted.always source)
    | .ok (place, node) =>
      match destination state target source with
      | .error cause => warn called (about "cannot create regular file " target cause)
      | .ok other =>
        if other = place then
          warn called (Quoted.always source ++ .ofString " and " ++ Quoted.always target ++
            .ofString " are the same file")
        else
          let node :=
            match node, state.files.node? other with
            | .file content _, some (.file _ executable) => FileNode.file content executable
            | node, _ => node
          set { state with files := state.files.store other node }
          return 0

/-- Gives files other names. -/
def move (called : Text) (words : List Text) : Effect Nat := do
  let (_, names) ← flags called "finuv".toList words
  transfer called names fun source target => do
    let state ← get
    match state.files.find state.directory source.bytes false with
    | .error cause => warn called (about "cannot stat " source cause)
    | .ok place =>
      if (state.files.node? place).isNone then warn called (about "cannot stat " source .notFound)
      else
        match destination state target source with
        | .error cause =>
          warn called (.ofString "cannot move " ++ Quoted.always source ++
            about " to " target cause)
        | .ok other =>
          if other = place then
            warn called (Quoted.always source ++ .ofString " and " ++ Quoted.always target ++
              .ofString " are the same file")
          else
            let kept := (state.files.remove other).nodes.map fun (at_, node) =>
              if place.isPrefixOf at_ then (other ++ at_.drop place.length, node) else (at_, node)
            set { state with files := { nodes := kept } }
            return 0

/-- Makes links to files. -/
def link (called : Text) (words : List Text) : Effect Nat := do
  let (asked, names) ← flags called "sfnv".toList words
  let state ← get
  match names with
  | [] => misuse called (.ofString "missing file operand")
  | source :: rest =>
    let name := rest.head?.getD (lastName source)
    let kind := if asked.contains 's' then "failed to create symbolic link "
      else "failed to create hard link "
    let place : Except Cause Place := match state.files.open? state.directory name.bytes with
      | .ok (place, .directory) => .ok (place ++ [(lastName source).bytes])
      | _ => state.files.find state.directory name.bytes false
    let place := match place with
      | .error .notFound => state.files.findNew state.directory name.bytes
      | place => place
    let node := if asked.contains 's' then Except.ok (FileNode.link source.bytes)
      else (state.files.open? state.directory source.bytes).map Prod.snd
    match place, node with
    | .error cause, _ => throw (about kind name cause)
    | _, .error cause => throw (about "failed to access " source cause)
    | .ok place, .ok node =>
      if (state.files.node? place).isSome && !(asked.contains 'f') then
        throw (about kind name (.system 17))
      else
        set { state with files := state.files.store place node }
        return 0

/-- Lists files and directories by name. -/
def list (called : Text) (words : List Text) : Effect Nat := do
  let (asked, names) ← flags called "aAdfFhilLnprRstuU1".toList words
  let state ← get
  let names := (if names.isEmpty then [['.']] else names).mergeSort Field.textLe
  let status ← forEach names fun name => do
    if Field.exists_ state name then return 0
    else
      let _ ← warn called (about "cannot access " name .notFound)
      return 2
  let names := names.filter (Field.exists_ state)
  let isDirectory (name : Text) : Bool :=
    !(asked.contains 'd') && ((state.files.open? state.directory name.bytes).toOption.any
      fun found => found.2 = .directory)
  let plain := names.filter (!isDirectory ·)
  let inside (name : Text) : List Text :=
    let all := (Field.namesIn state name).filter fun entry =>
      asked.contains 'a' || (entry.head? ≠ some '.' ||
        (asked.contains 'A' && entry ≠ ['.'] && entry ≠ ['.', '.']))
    all.mergeSort Field.textLe
  let directories := names.filter isDirectory
  let headed := words.filter (·.head? ≠ some '-') |>.length |> (· > 1)
  let sections := directories.map fun name =>
    (if headed then name ++ [':', '\n'] else []) ++ (inside name).flatMap (· ++ ['\n'])
  let first := plain.flatMap (· ++ ['\n'])
  say (List.intercalate ['\n'] ((if plain.isEmpty then [] else [first]) ++ sections))
  return status

/-- How many lines or bytes are wanted, and whether all but those. -/
structure Amount where
  /-- Whether bytes are counted. -/
  bytes : Bool := false
  /-- Whether the number is a place to start from, or to end before. -/
  other : Bool := false
  /-- The number. -/
  count : Nat := 10

/-- The amount that options ask for. -/
def amount (sign : Char) (found : List (Char × Text)) : Effect Amount :=
  found.foldlM (fun wanted (letter, argument) => do
    if letter ≠ 'n' && letter ≠ 'c' then return wanted
    let other := argument.head? = some sign
    let digits := if other || argument.head? = some '-' then argument.tail else argument
    match if digits.isEmpty then none else Decimal.natOfDigits? digits with
    | some count => return { bytes := letter = 'c', other, count }
    | none =>
      let kind := if letter = 'c' then "invalid number of bytes: " else "invalid number of lines: "
      throw (.ofString kind ++ Quoted.always argument)) {}

/-- Words the first of which may be a number of lines behind a hyphen. -/
def withCounts (words : List Text) : List Text :=
  match words with
  | ('-' :: digit :: rest) :: later =>
    if digit.isDigit && rest.all Char.isDigit then ['-', 'n'] :: (digit :: rest) :: later else words
  | words => words

/-- Prints parts of files, behind headings if there are several. -/
def parts (called : Text) (names : List Text) (part : Text → Text) : Effect Nat := do
  let names := if names.isEmpty then [['-']] else names
  let (_, status) ← names.foldlM (fun (isFirst, status) name => do
    match ← contentOf name with
    | .ok bytes =>
      let shown : Text := if name = ['-'] then .ofString "standard input" else name
      let heading := (if isFirst then [] else ['\n']) ++ Text.ofString "==> " ++ shown ++
        Text.ofString " <==\n"
      say ((if names.length > 1 then heading else []) ++ part (.ofBytes bytes))
      return (false, status)
    | .error cause =>
      let _ ← warn called <|
        if cause = .isDirectory then about "error reading " name cause
        else
          Text.ofString "cannot open " ++ Quoted.always name ++
            Text.ofString (" for reading: " ++ cause.description)
      return (isFirst, 1)) ((true, 0) : Bool × Nat)
  return status

/-- Prints the first lines or bytes of files. -/
def head (called : Text) (words : List Text) : Effect Nat := do
  let words := withCounts words
  let (found, names) ← options called ['q', 'v'] ['n', 'c'] (words.length + 1) words
  let wanted ← amount '-' found
  parts called names fun text =>
    let take {α : Type} (all : List α) : List α :=
      all.take (if wanted.other then all.length - wanted.count else wanted.count)
    if wanted.bytes then take text else (take (lines text)).flatten

/-- Prints the last lines or bytes of files. -/
def tail (called : Text) (words : List Text) : Effect Nat := do
  let words := withCounts words
  let (found, names) ← options called ['q', 'v', 'f'] ['n', 'c'] (words.length + 1) words
  let wanted ← amount '+' found
  parts called names fun text =>
    let drop {α : Type} (all : List α) : List α :=
      all.drop (if wanted.other then wanted.count - 1 else all.length - wanted.count)
    if wanted.bytes then drop text else (drop (lines text)).flatten

/-- How many lines, words and bytes a text has. -/
def measure (text : Text) : List Nat :=
  let words := text.foldl (fun (count, inside) char =>
    let isSpace := Arithmetic.isSpace char
    (if !isSpace && !inside then count + 1 else count, !isSpace)) ((0, false) : Nat × Bool)
  [text.count '\n', words.1, text.length]

/-- Counts lines, words and bytes of files. -/
def count (called : Text) (words : List Text) : Effect Nat := do
  let (asked, names) ← flags called ['l', 'w', 'c', 'm'] words
  let chosen (counts : List Nat) : List Nat :=
    if asked.isEmpty then counts
    else (counts.zip [['l'], ['w'], ['c', 'm']]).filterMap fun (number, letters) =>
      if letters.any (asked.contains ·) then some number else none
  let state ← get
  let fromPipe : Bool := match state.channel? 0 with
    | some (.source number) => (state.sources[number]?).any (·.content matches .held _)
    | _ => true
  let fromInput := names.isEmpty || names.contains ['-']
  let names := if names.isEmpty then [[]] else names
  let (rows, status) ← names.foldlM (fun (rows, status) name => do
    match ← contentOf (if name.isEmpty then ['-'] else name) with
    | .ok bytes => return (rows ++ [(measure (.ofBytes bytes), name)], status)
    | .error cause =>
      let _ ← warn called (Quoted.beforeColon name ++ .ofString (": " ++ cause.description))
      return (rows, 1)) (([], 0) : List (List Nat × Text) × Nat)
  let totals := rows.foldl (fun totals row => (totals.zip row.1).map fun (one, two) => one + two)
    [0, 0, 0]
  let rows := if names.length > 1 then rows ++ [(totals, .ofString "total")] else rows
  let isSingle := names.length = 1 && (chosen totals).length = 1
  let width := if isSingle then 1
    else max (Nat.toDigits 10 (totals.getLastD 0)).length (if fromInput && fromPipe then 7 else 1)
  say <| rows.flatMap fun (counts, name) =>
    List.intercalate [' '] ((chosen counts).map (aligned width)) ++
      (if name.isEmpty then [] else ' ' :: name) ++ ['\n']
  return status

/-- Prints whole numbers in a row. -/
def sequence (called : Text) (words : List Text) : Effect Nat := do
  let numbers ← words.mapM fun word => do
    match Arithmetic.decimal? word with
    | some value => return value
    | none => misuse called (.ofString "invalid floating point argument: " ++ Quoted.always word)
  let row (first step last : Int) : Effect Nat := do
    if step = 0 then
      misuse called (.ofString "invalid Zero increment value: " ++ Quoted.always (words.getD 1 []))
    else
      let steps := if (last - first) * step < 0 then 0 else ((last - first) / step).toNat + 1
      say ((List.range steps).flatMap fun (index : Nat) =>
        Text.ofString (Decimal.ofInt (first + index * step) ++ "\n"))
      return 0
  match numbers with
  | [] => misuse called (.ofString "missing operand")
  | [last] => row 1 1 last
  | [first, last] => row first 1 last
  | [first, step, last] => row first step last
  | _ => misuse called (.ofString "extra operand " ++ Quoted.always (words.getD 3 []))

/-- Prints the last name of a path, perhaps without an ending. -/
def baseName (called : Text) (words : List Text) : Effect Nat := do
  match words with
  | [] => misuse called (.ofString "missing operand")
  | _ :: _ :: extra :: _ => misuse called (.ofString "extra operand " ++ Quoted.always extra)
  | path :: endings =>
    let name := lastName path
    let name := if name.isEmpty && !path.isEmpty then ['/'] else name
    let ending := endings.head?.getD []
    let short := name.take (name.length - ending.length)
    say ((if ending.isSuffixOf name && !short.isEmpty then short else name) ++ ['\n'])
    return 0

/-- Prints what stands before the last name of a path. -/
def directoryName (called : Text) (words : List Text) : Effect Nat := do
  if words.isEmpty then misuse called (.ofString "missing operand")
  say <| words.flatMap fun path =>
    let bare := (path.reverse.dropWhile (· = '/')).reverse
    let front := (bare.reverse.dropWhile (· ≠ '/')).dropWhile (· = '/') |>.reverse
    (if !front.isEmpty then front
      else if path.head? = some '/' then ['/'] else ['.']) ++ ['\n']
  return 0

/-- Prints its input and stores it in files. -/
def duplicate (called : Text) (words : List Text) : Effect Nat := do
  let (asked, names) ← flags called ['a', 'i', 'p'] words
  match ← contentOf ['-'] with
  | .error cause => warn called (.ofString ("read error: " ++ cause.description))
  | .ok bytes =>
    let status ← forEach names fun name => do
      let state ← get
      match state.openOutput (if asked.contains 'a' then .append else .overwrite) name with
      | .ok (channel, files) =>
        set ({ state with files }.writeTo channel bytes)
        return 0
      | .error cause =>
        warn called (Quoted.beforeColon name ++ .ofString (": " ++ cause.description))
    say (.ofBytes bytes)
    return status

/-- The programs by name, and the status of those that end with a complaint. -/
def table : List (String × Nat × (Text → List Text → Effect Nat)) := [
  ("true", 0, fun _ _ => return 0), ("false", 1, fun _ _ => return 1), ("echo", 1, echo),
  ("printf", 1, printf), ("test", 2, fun _ => Builtin.test),
  ("[", 2, fun _ words =>
    if words.getLast? = some [']'] then Builtin.test words.dropLast
    else throw (.ofString "missing ']'")),
  ("cat", 1, concatenate), ("rm", 1, remove), ("rmdir", 1, removeDirectories),
  ("mkdir", 1, makeDirectories), ("touch", 1, touch), ("chmod", 1, changeMode), ("sleep", 1, sleep),
  ("pwd", 1, printDirectory), ("kill", 1, fun _ => Builtin.kill), ("cp", 1, copy), ("mv", 1, move),
  ("ln", 1, link), ("ls", 2, list), ("head", 1, head), ("tail", 1, tail), ("wc", 1, count),
  ("seq", 1, sequence), ("basename", 1, baseName), ("dirname", 1, directoryName),
  ("tee", 1, duplicate)
]

/-- Runs a program that is no shell, if there is one of that name; the result is its status. -/
def run? (program : String) (called : Text) (words : List Text) : Option (StateM State Nat) :=
  (table.lookup program).map fun (failure, task) => do
    let status ← (task called words).run
    let status ←
      match status with
      | .ok status => pure status
      | .error complaint =>
        modify (·.complain (called ++ [':', ' '] ++ complaint))
        pure failure
    let state ← get
    if state.outputLost then
      let reason := (state.outputFailure?.map Cause.description).getD ""
      set ({ state with outputLost := false }.complain
        (called ++ Text.ofString (": write error: " ++ reason)))
      return 1
    else return status

end Launcher.Shell.Utility
