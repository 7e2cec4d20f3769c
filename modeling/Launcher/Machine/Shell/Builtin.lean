import Launcher.Machine.Executable
import Launcher.Machine.Shell.Condition
import Launcher.Machine.Shell.Printf

/-! Commands that a shell carries out by itself, as far as they only change its state. -/

namespace Launcher.Shell.Builtin

/-- The work of a command, which may end with a complaint. -/
abbrev Effect (α : Type) := ExceptT Text (StateM State) α

/-- Ends with a complaint. -/
def fail {α : Type} (complaint : String) : Effect α := throw (.ofString complaint)

/-- Ends with a complaint about a word. -/
def failOn {α : Type} (complaint : String) (word : Text) : Effect α :=
  throw (.ofString complaint ++ word)

/-- Prints a text; it is remembered if it cannot be. -/
def say (text : Text) : Effect Unit := modify fun state =>
  if !text.isEmpty && state.outputFailure?.isSome then { state with outputLost := true }
  else state.print text

/-- Complains without ending. -/
def warn (complaint : Text) : Effect Unit := modify (·.complainHere complaint)

/-- The number that a word denotes. -/
def number (word : Text) : Effect Nat :=
  match Arithmetic.count? word with
  | some value => pure value
  | none => failOn "Illegal number: " word

/-- The letters of an option word, the last of which may have an argument of its own or
in the next word. -/
def optionLetters (allowed : List Char) (withArgument : List Char) (letters : Text)
    (rest : List Text) : Effect (List (Char × Text) × List Text) := do
  match letters with
  | [] => return ([], rest)
  | letter :: letters =>
    if withArgument.contains letter then
      match letters, rest with
      | [], [] => failOn "No arg for -" ([letter] ++ .ofString " option")
      | [], argument :: rest => return ([(letter, argument)], rest)
      | letters, rest => return ([(letter, letters)], rest)
    else if allowed.contains letter then
      let (more, rest) ← optionLetters allowed withArgument letters rest
      return ((letter, []) :: more, rest)
    else failOn "Illegal option -" [letter]

/-- The options in front of words, and the words behind them. -/
def options (allowed : List Char) (withArgument : List Char) (fuel : Nat) (words : List Text) :
    Effect (List (Char × Text) × List Text) := do
  match fuel, words with
  | _, ['-', '-'] :: rest => return ([], rest)
  | fuel + 1, ('-' :: letter :: letters) :: rest =>
    let (found, rest) ← optionLetters allowed withArgument (letter :: letters) rest
    let (more, rest) ← options allowed withArgument fuel rest
    return (found ++ more, rest)
  | _, words => return ([], words)

/-- The words behind options that are only letters. -/
def flags (allowed : List Char) (words : List Text) : Effect (List Char × List Text) := do
  let (found, rest) ← options allowed [] (words.length + 1) words
  return (found.map Prod.fst, rest)

/-- Gives a variable a value, unless it has no proper name or must not change. -/
def setVariable (name value : Text) : Effect Unit := do
  if !Command.isName name then throw (name ++ .ofString ": bad variable name")
  if (← get).isFixed name then throw (name ++ .ofString ": is read only")
  modify (·.assign name value)

/-- A text in single quotes, those in it put into double ones. -/
def quoted (fuel : Nat) (text : Text) : Text :=
  let plain := text.takeWhile (· ≠ '\'')
  let rest := text.drop plain.length
  let quotes := rest.takeWhile (· = '\'')
  let rest := rest.drop quotes.length
  ['\''] ++ plain ++ ['\''] ++
    match fuel, quotes with
    | _, [] | 0, _ => []
    | fuel + 1, quotes => ['"'] ++ quotes ++ ['"'] ++ if rest.isEmpty then [] else quoted fuel rest

/-- A text as it can be read again. -/
def quote (text : Text) : Text := quoted text.length text

/-- The variables that fulfil a condition in order, each behind a word. -/
def listing (start : String) (wanted : Variable → Bool) (state : State) : Text :=
  let chosen := state.bindings.filter fun entry => wanted entry.2
  (chosen.mergeSort fun first second => Field.textLe first.1 second.1).flatMap fun (name, known) =>
    let value := (known.value.map fun value => '=' :: quote value).getD []
    Text.ofString start ++ name ++ value ++ ['\n']

/-- Prints words with blanks between them and their escapes carried out. -/
def echo (words : List Text) : Effect Nat := do
  let (words, line) := if words.head? = some ['-', 'n'] then (words.tail, false) else (words, true)
  let joined := List.intercalate [' '] words
  let (text, ended) := Printf.unescape (joined.length + 1) joined
  say (if line && !ended then text ++ ['\n'] else text)
  return 0

/-- Prints arguments in a format. -/
def printf (words : List Text) : Effect Nat := do
  let (_, words) ← flags [] words
  match words with
  | [] => fail "usage: printf format [arg ...]"
  | format :: arguments =>
    let progress := Printf.format format arguments
    progress.complaints.reverse.forM warn
    say progress.text
    match progress.broken with
    | some complaint => throw complaint
    | none => return if progress.complaints.isEmpty then 0 else 1

/-- Tests a condition. -/
def test (words : List Text) : Effect Nat := do
  match Condition.holds (← get) words with
  | .ok holds => return if holds then 0 else 1
  | .error complaint => throw complaint

/-- Tests a condition in brackets. -/
def testInBrackets (words : List Text) : Effect Nat :=
  if words.getLast? = some [']'] then test words.dropLast else fail "missing ]"

/-- The number of a signal given by name or number. -/
def signal? (least : Nat) (text : Text) : Option Nat :=
  match if text.isEmpty then none else Decimal.natOfDigits? text with
  | some number => if number ≤ Signal.names.length then some number else none
  | none =>
    if least = 0 && text.map Char.toUpper = ['E', 'X', 'I', 'T'] then some 0
    else Signal.ofName? (String.ofList text)

/-- How signals are sent. -/
def killUsage : String :=
  "Usage: kill [-s sigspec | -signum | -sigspec] [pid | job]... or\nkill -l [exitstatus]"

/-- Sends a signal to a process, if there is one of that number. -/
def send (signal process : Nat) : Effect Nat := do
  if (← get).processes.contains process then
    if signal ≠ 0 then
      modify fun state => { state with pending := state.pending ++ [(process, signal)] }
    return 0
  else
    warn (.ofString "No such process\n")
    return 1

/-- Sends a signal to processes; the status tells whether all of them were there. -/
def sendAll (signal : Nat) : List Text → Effect Nat
  | [] => return 0
  | target :: rest => do
    let target := if target.head? = some '-' then target.tail else target
    let status ← send signal (← number target)
    let later ← sendAll signal rest
    return max status later

/-- The names of the signals, or the name of one. -/
def signalNames (words : List Text) : Effect Nat := do
  match words with
  | [] =>
    say (.ofString (String.join (("0" :: Signal.names).map (· ++ "\n"))))
    return 0
  | word :: _ =>
    let status ← number word
    match Signal.name? (if status > 128 then status - 128 else status) with
    | some name =>
      say (.ofString (name ++ "\n"))
      return 0
    | none => failOn "invalid signal number or exit status: " word

/-- Sends the signal that arguments name, else the one that asks to terminate. -/
def kill (words : List Text) : Effect Nat := do
  let direct : Option Nat :=
    match words with
    | ('-' :: name) :: _ => signal? 1 name
    | _ => none
  match direct with
  | some signal => if words.tail.isEmpty then fail killUsage else sendAll signal words.tail
  | none =>
    let (found, targets) ← options ['l'] ['s'] (words.length + 1) words
    let signals ← found.mapM fun (letter, name) => do
      match letter, signal? 1 name with
      | 'l', _ => return none
      | _, some signal => return some signal
      | _, none => failOn "invalid signal number or name: " name
    if signals.contains none then
      if signals.any Option.isSome then fail killUsage else signalNames targets
    else if targets.isEmpty then fail killUsage
    else sendAll ((signals.getLast?.bind id).getD 15) targets

/-- The number that stands for the end of the shell, or of a signal. -/
def trapped (state : State) : Text :=
  (state.traps.mergeSort fun first second => first.1 ≤ second.1).flatMap fun (signal, action) =>
    Text.ofString "trap -- " ++ quote action ++
      Text.ofString (" " ++ (Signal.name? signal).getD "EXIT" ++ "\n")

/-- Says what to do on signals from now on; nothing said means what is usual. -/
def setTraps (action : Option Text) : List Text → Effect Nat
  | [] => return 0
  | name :: rest => do
    match signal? 0 name with
    | none =>
      modify (·.complain (.ofString "trap: " ++ name ++ .ofString ": bad trap"))
      return 1
    | some signal =>
      modify fun state =>
        let others := state.traps.filter fun entry => entry.1 ≠ signal
        { state with traps := (action.map fun action => (signal, action)).toList ++ others }
      setTraps action rest

/-- Says what to do on signals, or tells what has been said. -/
def trap (words : List Text) : Effect Nat := do
  let (_, words) ← flags [] words
  match words with
  | [] =>
    say (trapped (← get))
    return 0
  | action :: names =>
    if names.isEmpty || action.all Char.isDigit && (signal? 0 action).isSome then
      setTraps none words
    else setTraps (if action = ['-'] then none else some action) names

/-- The marks of a line up to its end, how many bytes it takes, and whether it has an end.

A backslash joins lines, or takes the meaning from what follows it. -/
def lineMarks (raw : Bool) (count : Nat) : Text → List Mark × Nat × Bool
  | [] => ([], count, false)
  | '\n' :: _ => ([], count + 1, true)
  | '\x00' :: rest => lineMarks raw (count + 1) rest
  | '\\' :: char :: rest =>
    if raw then
      let (marks, count, ended) := lineMarks raw (count + 1) (char :: rest)
      (.soft '\\' :: marks, count, ended)
    else if char = '\n' then lineMarks raw (count + 2) rest
    else
      let (marks, count, ended) := lineMarks raw (count + 2) rest
      (.quoted char :: marks, count, ended)
  | char :: rest =>
    let (marks, count, ended) := lineMarks raw (count + 1) rest
    (.soft char :: marks, count, ended)

/-- Whether a mark is a separator, white space or not. -/
def separates (separators : Text) (blank : Bool) (mark : Mark) : Bool :=
  match mark with
  | .soft char => separators.contains char && Field.isBlank char = blank
  | _ => false

/-- The parts of a line, so many of them; the last one takes all that is left. -/
def lineParts (separators : Text) (count : Nat) (marks : List Mark) : List Text :=
  let isBlank := separates separators true
  let isMark := separates separators false
  let marks := marks.dropWhile isBlank
  let part := marks.takeWhile fun mark => !(isBlank mark || isMark mark)
  let rest := (marks.drop part.length).dropWhile isBlank
  let rest := (if rest.head?.any isMark then rest.tail else rest).dropWhile isBlank
  match count with
  | 0 => []
  | 1 => [Mark.text (if rest.isEmpty then part else (marks.reverse.dropWhile isBlank).reverse)]
  | count + 1 => Mark.text part :: lineParts separators count rest

/-- Reads a line into variables. -/
def read (words : List Text) : Effect Nat := do
  let (found, names) ← options ['r'] ['p'] (words.length + 1) words
  if names.isEmpty then fail "arg count"
  let state ← get
  match state.input >>= fun channel => (state.toRead channel).map (channel, ·) with
  | .error _ =>
    names.forM fun name => setVariable name []
    return 1
  | .ok (channel, bytes) =>
    let (marks, count, ended) := lineMarks (found.any (·.1 = 'r')) 0 (.ofBytes bytes)
    modify (·.advance channel count)
    let parts := lineParts (Field.separators state) names.length marks
    (names.zip parts).forM fun (name, value) => setVariable name value
    return if ended then 0 else 1

/-- The names of a path put together without those that lead nowhere. -/
def tidy (names : List Bytes) : List Bytes :=
  names.foldl (fun done name =>
    if name = [dot] then done else if name = [dot, dot] then done.dropLast else done ++ [name]) []

/-- The text of a path from the root. -/
def fromRoot (names : List Bytes) : Text :=
  if names.isEmpty then ['/'] else names.flatMap fun name => '/' :: Text.ofBytes name

/-- Goes to another directory. -/
def changeDirectory (words : List Text) : Effect Nat := do
  let (letters, words) ← flags ['L', 'P'] words
  let state ← get
  let former := (state.valueOf "OLDPWD".toList).getD []
  let target :=
    match words with
    | [] => (state.valueOf "HOME".toList).getD []
    | ['-'] :: _ => former
    | target :: _ => target
  let target := if target.isEmpty then ['.'] else target
  let whole := if target.head? = some '/' then target else state.shownDirectory ++ ['/'] ++ target
  let isPhysical := letters.getLast? = some 'P'
  let path := if isPhysical then target else fromRoot (tidy (Path.mk whole.bytes).components)
  match state.files.open? state.directory path.bytes with
  | .ok (place, .directory) =>
    let shown := if isPhysical then fromRoot place else path
    modify fun state =>
      let state := { state with directory := place, shownDirectory := shown }
      let state := (state.assign "OLDPWD".toList (before state)).handOn "OLDPWD".toList
      (state.assign "PWD".toList shown).handOn "PWD".toList
    if words.head? = some ['-'] then say (shown ++ ['\n'])
    return 0
  | _ => failOn "can't cd to " target
where
  /-- The directory that was shown last. -/
  before (state : State) : Text := (state.valueOf "PWD".toList).getD state.shownDirectory

/-- Prints the working directory. -/
def printDirectory (words : List Text) : Effect Nat := do
  let (letters, _) ← flags ['L', 'P'] words
  let state ← get
  say ((if letters.getLast? = some 'P' then fromRoot state.directory else state.shownDirectory) ++
    ['\n'])
  return 0

/-- The options of a shell by letter and name; some have no letter. -/
def optionNames : List (Option Char × String) :=
  [(some 'e', "errexit"), (some 'f', "noglob"), (some 'I', "ignoreeof"), (some 'i', "interactive"),
    (some 'm', "monitor"), (some 'n', "noexec"), (some 's', "stdin"), (some 'x', "xtrace"),
    (some 'v', "verbose"), (some 'V', "vi"), (some 'E', "emacs"), (some 'C', "noclobber"),
    (some 'a', "allexport"), (some 'b', "notify"), (some 'u', "nounset"), (some 'p', "privileged"),
    (none, "nolog"), (none, "debug")]

/-- The letters of the options that are set, in the order in which a script sees them. -/
def optionText (state : State) : Text :=
  (optionNames.filterMap fun (letter, _) => letter.filter state.hasFlag).reverse

/-- How the options are set; those of a shell that is just being started all seem to be. -/
def optionListing (starting on : Bool) (state : State) : Text :=
  let isSet (letter : Option Char) : Bool := starting || letter.any state.hasFlag
  let line (letter : Option Char) (name : String) : String :=
    if on then
      name ++ String.ofList (List.replicate (16 - name.length) ' ') ++
        (if isSet letter then "on" else "off")
    else "set " ++ (if isSet letter then "-o " else "+o ") ++ name
  .ofString (String.join
    ((if on then ["Current option settings\n"] else []) ++
      optionNames.map fun (letter, name) => line letter name ++ "\n"))

/-- Sets an option or takes it back by its name. -/
def setNamed (on : Bool) (name : Text) : Effect Unit := do
  match optionNames.find? fun entry => entry.2.toList = name with
  | some (letter, _) => letter.forM fun letter => modify (·.setFlag letter on)
  | none => failOn "Illegal option -o " name

/-- Sets options by the letters of a word; behind one letter a name stands in the next word. -/
def setLetters (starting on : Bool) : Text → List Text → Effect (List Text)
  | [], rest => return rest
  | 'o' :: letters, [] => do
    say (optionListing starting on (← get))
    setLetters starting on letters []
  | 'o' :: letters, name :: rest => do
    setNamed on name
    setLetters starting on letters rest
  | letter :: letters, rest => do
    if starting && letter = 'c' then modify fun state => { state with givenText := true }
    else if starting && letter = 'l' then pure ()
    else if optionNames.any fun entry => entry.1 = some letter then
      modify (·.setFlag letter on)
    else failOn "Illegal option -" [letter]
    setLetters starting on letters rest

/-- Sets the options in front of words; what follows them becomes the positional parameters. -/
def setOptions (starting : Bool) (fuel : Nat) (words : List Text) :
    Effect (Option (List Text)) := do
  match fuel, words with
  | _, ['-'] :: rest =>
    if !starting then modify fun state => (state.setFlag 'x' false).setFlag 'v' false
    return if rest.isEmpty && !starting then none else some rest
  | _, ['-', '-'] :: rest => return some rest
  | fuel + 1, ('-' :: letters) :: rest =>
    setOptions starting fuel (← setLetters starting true letters rest)
  | fuel + 1, ('+' :: letters) :: rest =>
    setOptions starting fuel (← setLetters starting false letters rest)
  | _, words => return if words.isEmpty then none else some words

/-- Sets options and positional parameters, or prints the variables. -/
def set (words : List Text) : Effect Nat := do
  if words.isEmpty then say (listing "" (·.value.isSome) (← get))
  else
    match ← setOptions false (words.length + 1) words with
    | some parameters => modify fun state => { state with parameters, optionOffset := 0 }
    | none => pure ()
  return 0

/-- Drops positional parameters. -/
def shift (words : List Text) : Effect Nat := do
  let count ← (words.head?.map number).getD (pure 1)
  if count > (← get).parameters.length then fail "can't shift that many"
  modify fun state => { state with parameters := state.parameters.drop count, optionOffset := 0 }
  return 0

/-- Drops variables, or commands kept under names. -/
def unset (words : List Text) : Effect Nat := do
  let (letters, names) ← flags ['v', 'f'] words
  names.forM fun name => do
    if letters.getLast? = some 'f' then
      modify fun state =>
        { state with functions := state.functions.filter fun entry => entry.1 ≠ name }
    else
      if !Command.isName name then throw (name ++ .ofString ": bad variable name")
      if (← get).isFixed name then throw (name ++ .ofString ": is read only")
      modify (·.bind name none)
  return 0

/-- Changes what is known about variables, perhaps with values for them, or lists
those so changed. -/
def declare (start : String) (wanted : Variable → Bool) (change : State → Text → State)
    (words : List Text) : Effect Nat := do
  let (letters, words) ← flags ['p'] words
  if words.isEmpty || !letters.isEmpty then say (listing (start ++ " ") wanted (← get))
  else
    words.forM fun word => do
      let name := word.takeWhile (· ≠ '=')
      if word.contains '=' then setVariable name (word.drop (name.length + 1))
      else if !Command.isName name then throw (name ++ Text.ofString ": bad variable name")
      modify fun state => change state name
  return 0

/-- Remembers what a variable is outside of the function being carried out. -/
def remember (name : Text) : Effect Unit := modify fun state =>
  match state.frames with
  | [] => state
  | frame :: outer =>
    if (frame.lookup name).isSome then state
    else { state with frames := ((name, state.binding? name) :: frame) :: outer }

/-- Makes variables that end with the function being carried out. -/
def makeLocal (words : List Text) : Effect Nat := do
  if (← get).frames.isEmpty then fail "not in a function"
  let (_, words) ← flags [] words
  words.forM fun word => do
    let name := word.takeWhile (· ≠ '=')
    remember name
    if word.contains '=' then setVariable name (word.drop (name.length + 1))
  return 0

/-- A number in base eight with leading zeros. -/
def inOctal (value : Nat) : Text :=
  let digits := Nat.toDigits 8 value
  List.replicate (4 - digits.length) '0' ++ digits

/-- What a mask permits to the owner, the group and others. -/
def permitted (mask : Nat) : Text :=
  let letters (shift : Nat) : Text :=
    [(4, 'r'), (2, 'w'), (1, 'x')].filterMap fun (bit, letter) =>
      if mask / shift / bit % 2 = 0 then some letter else none
  Text.ofString "u=" ++ letters 64 ++ Text.ofString ",g=" ++ letters 8 ++
    Text.ofString ",o=" ++ letters 1

/-- Says what is not permitted to new files, or tells it. -/
def umask (words : List Text) : Effect Nat := do
  let (letters, words) ← flags ['S'] words
  match words with
  | [] =>
    let mask := (← get).mask
    say ((if letters.isEmpty then inOctal mask else permitted mask) ++ ['\n'])
    return 0
  | word :: _ =>
    if word.head?.any Char.isDigit then
      if word.all Printf.isOctal then
        modify fun state => { state with mask := (Arithmetic.digits 8 word).1 % 512 }
        return 0
      else failOn "Illegal number: " word
    else failOn "Illegal mode: " word

/-- The statuses of commands that were not waited for; the last one counts. -/
def wait (words : List Text) : Effect Nat := do
  let (_, words) ← flags [] words
  words.foldlM (fun _ word => do
    let process ← number word
    return ((← get).jobs.lookup process).getD 127) 0

/-- Reads an option from words, one letter at a time. -/
def getOption (words : List Text) : Effect Nat := do
  match words with
  | letters :: name :: arguments =>
    let state ← get
    let arguments := if arguments.isEmpty then state.parameters else arguments
    let index := ((state.valueOf "OPTIND".toList).bind Arithmetic.count?).getD 1
    let current : Text :=
      if index ≤ 1 || state.optionOffset = 0 then []
      else ((arguments[index - 2]?).getD []).drop state.optionOffset
    -- The word that is looked at, and its letters still to be looked at.
    let (index, rest) : Nat × Text :=
      match current, arguments[index - 1]? with
      | [], some ('-' :: letter :: more) => (index + 1, letter :: more)
      | current, _ => (index, current)
    let withArgument (argument : Option Text) : Effect Unit :=
      match argument with
      | some argument => modify (·.assign "OPTARG".toList argument)
      | none => modify (·.bind "OPTARG".toList none)
    let finish (index : Nat) (rest : Text) (letter : Char) (status : Nat) : Effect Nat := do
      let used := ((arguments[index - 2]?).getD []).length - rest.length
      modify (·.assign "OPTIND".toList (Decimal.ofNat index).toList)
      setVariable name [letter]
      modify fun state => { state with optionOffset := if rest.isEmpty then 0 else used }
      return status
    match rest, current.isEmpty with
    | [], _ | ['-'], true => finish index [] '?' 1
    | letter :: more, _ =>
      let silent := letters.head? = some ':'
      match letters.dropWhile (· ≠ letter) with
      | _ :: ':' :: _ =>
        match more, arguments[index - 1]? with
        | [], some argument =>
          withArgument (some argument)
          finish (index + 1) [] letter 0
        | [], none =>
          if silent then
            withArgument (some [letter])
            finish index [] ':' 0
          else
            modify (·.complain (.ofString "No arg for -" ++ [letter] ++ .ofString " option"))
            withArgument none
            finish index [] '?' 0
        | more, _ =>
          withArgument (some more)
          finish index [] letter 0
      | _ :: _ =>
        withArgument (some [])
        finish index more letter 0
      | [] =>
        if silent then withArgument (some [letter])
        else
          modify (·.complain (Text.ofString "Illegal option -" ++ [letter]))
          withArgument none
        finish index more '?' 0
  | _ => fail "Usage: getopts optstring var [arg...]"

/-- The directories in which a shell looks for programs. -/
def searchPath (state : State) : List Text :=
  ((state.valueOf "PATH".toList).getD []).splitOn ':'

/-- The path of a program by its name, or why there is none. -/
def pathOf (state : State) (name : Text) : Except Cause Text :=
  if name.contains '/' then
    (state.files.open? state.directory name.bytes).map fun _ => name
  else search .notFound (searchPath state)
where
  /-- Looks into directories; what must not be executed counts only if there is nothing else. -/
  search (missing : Cause) : List Text → Except Cause Text
    | [] => .error missing
    | directory :: rest =>
      let path := if directory.isEmpty then name else directory ++ '/' :: name
      match state.files.open? state.directory path.bytes with
      | .ok (_, .program _) | .ok (_, .file _ true) => .ok path
      | .ok _ => search .denied rest
      | .error _ => search missing rest

/-- The commands that only change the state, by name. -/
def table : List (String × (List Text → Effect Nat)) := [
  (":", fun _ => return 0), ("true", fun _ => return 0), ("false", fun _ => return 1),
  ("echo", echo), ("printf", printf), ("test", test), ("[", testInBrackets), ("kill", kill),
  ("trap", trap), ("read", read), ("cd", changeDirectory), ("chdir", changeDirectory),
  ("pwd", printDirectory), ("set", set), ("shift", shift), ("unset", unset),
  ("export", declare "export" Variable.exported State.handOn),
  ("readonly", declare "readonly" Variable.fixed State.fix), ("local", makeLocal),
  ("umask", umask), ("wait", wait), ("getopts", getOption),
  ("times", fun _ => do
    say (.ofString "0m0.000000s 0m0.000000s\n0m0.000000s 0m0.000000s\n")
    return 0),
  ("jobs", fun words => do
    let _ ← flags ['l', 'p'] words
    return 0),
  ("fg", fun _ => fail "No current job"), ("bg", fun _ => fail "No current job"),
  ("hash", fun words => do
    let (_, names) ← flags ['r', 'v'] words
    let state ← get
    names.foldlM (fun status name => do
      if (pathOf state name).toOption.isSome then return status
      warn (name ++ .ofString ": not found")
      return 1) 0),
  ("alias", fun words => do
    words.foldlM (fun status word => do
      if word.contains '=' then return status
      modify (·.complain (.ofString "alias: " ++ word ++ .ofString " not found"))
      return 1) 0),
  ("unalias", fun words => do
    let (letters, names) ← flags ['a'] words
    names.foldlM (fun status name => do
      if !letters.isEmpty then return status
      modify (·.complain (.ofString "unalias: " ++ name ++ .ofString " not found"))
      return 1) 0),
  ("ulimit", fun words => do
    let (_, words) ← flags "HSatfdsmcnpvlr".toList words
    if words.isEmpty then say (.ofString "unlimited\n")
    return 0)
]

/-- The commands that a shell carries out by itself and that may leave something. -/
def leavingNames : List String :=
  ["break", "continue", "return", "exit", "eval", ".", "exec", "command", "type"]

/-- Whether a shell carries out a command by itself. -/
def isBuiltin (name : String) : Bool :=
  (table.lookup name).isSome || leavingNames.contains name

/-- What a name means to a shell; briefly, only what it would take to call it. -/
def describe (brief : Bool) (state : State) (name : Text) : Text × Nat :=
  let text := String.ofList name
  let line (long : String) : Text × Nat :=
    (if brief then name ++ ['\n'] else name ++ .ofString (long ++ "\n"), 0)
  if Command.reserved.contains text then line " is a shell keyword"
  else if (state.functions.lookup name).isSome then line " is a shell function"
  else if isBuiltin text then
    line (if Command.specialNames.contains text then " is a special shell builtin"
      else " is a shell builtin")
  else
    match pathOf state name with
    | .ok path => (if brief then path ++ ['\n'] else name ++ .ofString " is " ++ path ++ ['\n'], 0)
    | .error _ => (if brief then [] else name ++ .ofString ": not found\n", 127)

end Launcher.Shell.Builtin
