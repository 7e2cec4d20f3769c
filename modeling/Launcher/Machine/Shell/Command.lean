import Launcher.Machine.Shell.Token

/-! The commands of a shell script, and how they are read from tokens. -/

namespace Launcher.Shell

/-- What a redirection does with its descriptor. -/
inductive RedirectKind where
  /-- Reads from a file. -/
  | input
  /-- Writes to a file that starts empty. -/
  | output
  /-- Writes to a file that starts empty, whatever it held. -/
  | overwrite
  /-- Writes to the end of a file. -/
  | append
  /-- Reads from a file that is made if it is not there. -/
  | update
  /-- Goes where another descriptor goes. -/
  | duplicate
  /-- Reads lines of the script itself, in which there may be expansions. -/
  | document (expanded : Bool)
  deriving DecidableEq, Repr

/-- A redirection of a descriptor. -/
structure Redirect where
  /-- The descriptor. -/
  descriptor : Nat
  /-- What is done with it. -/
  kind : RedirectKind
  /-- The word that names the file or the other descriptor, or the lines to be read. -/
  target : Text
  deriving DecidableEq, Repr

/-- A command with assignments, a program or builtin with arguments, and redirections. -/
structure SimpleCommand where
  /-- The line that it starts on. -/
  start : Nat
  /-- The line that its first word ends on. -/
  line : Nat
  /-- What is assigned to variables. -/
  assignments : List (Text × Text) := []
  /-- The name of what is run, and its arguments. -/
  words : List Text := []
  /-- Its redirections. -/
  redirects : List Redirect := []
  deriving Repr, Inhabited

/-- A command of a script. -/
inductive Command where
  /-- Nothing at all. -/
  | nothing
  /-- A command without a structure. -/
  | simple (command : SimpleCommand)
  /-- Two commands, the output of the first being the input of the second. -/
  | pipe (first second : Command)
  /-- A command whose success counts as failure. -/
  | negate (body : Command)
  /-- Two commands, the second only after success. -/
  | andThen (first second : Command)
  /-- Two commands, the second only after failure. -/
  | orElse (first second : Command)
  /-- Two commands in a row. -/
  | sequence (first second : Command)
  /-- A command that is not waited for. -/
  | background (body : Command)
  /-- A command chosen by the success of another one. -/
  | conditional (condition yes no : Command)
  /-- A command repeated as long as a condition succeeds, or fails. -/
  | loop (while_ : Bool) (condition body : Command)
  /-- A command repeated for words, or for the positional parameters. -/
  | each (line : Nat) (name : Text) (words : Option (List Text)) (body : Command)
  /-- The first command with a pattern that a word matches. -/
  | choose (line : Nat) (word : Text) (arms : List (List Text × Command))
  /-- A command in a shell of its own. -/
  | subshell (line : Nat) (body : Command)
  /-- A command with redirections. -/
  | redirected (line : Nat) (body : Command) (redirects : List Redirect)
  /-- A command kept under a name. -/
  | define (name : Text) (body : Command)
  deriving Repr, Inhabited

/-- What is wrong with a script. -/
structure Complaint where
  /-- The line that has been reached. -/
  line : Nat
  /-- What is wrong. -/
  text : String
  deriving DecidableEq, Repr

namespace Command

/-- The tokens still to be read, the last of which is the end of the script. -/
abbrev Rest := List PlacedToken

/-- What reading gives, unless something is wrong. -/
abbrev Reading (α : Type) := Except Complaint α

/-- Words that mean something when they stand in front of a command. -/
def reserved : List String :=
  ["if", "then", "else", "elif", "fi", "while", "until", "for", "do", "done", "case", "esac", "in",
    "!", "\x7b", "\x7d"]

/-- Words that end a list of commands when they stand in front of a command. -/
def closers : List String := ["then", "else", "elif", "fi", "do", "done", "esac", "\x7d"]

/-- The builtins whose names no command can be kept under, and whose failure ends a script. -/
def specialNames : List String :=
  [".", ":", "break", "continue", "eval", "exec", "exit", "export", "local", "readonly", "return",
    "set", "shift", "times", "trap", "unset"]

/-- Whether a token is a given word. -/
def isWord (token : Token) (text : String) : Bool := token = .word text.toList

/-- The token to be read next. -/
def next (rest : Rest) : Token := (rest.head?.map PlacedToken.token).getD .finish

/-- The line that is reached with the token to be read next. -/
def lineOf (rest : Rest) : Nat := (rest.head?.map PlacedToken.line).getD 1

/-- Leaves out line ends. -/
def skipLines (rest : Rest) : Rest := rest.dropWhile fun placed => placed.token = .newline

/-- A token as a complaint names it. -/
def nameOf (token : Token) : String :=
  match token with
  | .word raw =>
    let word := String.ofList raw
    if reserved.contains word then "\"" ++ word ++ "\"" else "word"
  | .operator text =>
    if ["&&", "||", ";;", "&", "|", ";", "(", ")"].contains text then "\"" ++ text ++ "\""
    else "redirection"
  | .descriptor _ => "redirection"
  | .newline => "newline"
  | .finish => "end of file"
  | .document _ _ | .broken _ => "word"

/-- Complains about the token to be read next, with a hint behind it. -/
def complain {α : Type} (hint : String) (rest : Rest) : Reading α :=
  let text :=
    match next rest with
    | .broken complaint => complaint
    | token => "Syntax error: " ++ nameOf token ++ " unexpected" ++ hint
  .error ⟨lineOf rest, text⟩

/-- Complains about the token to be read next. -/
def unexpected {α : Type} (rest : Rest) : Reading α := complain "" rest

/-- Complains about the token to be read next where another one is expected. -/
def unexpectedFor {α : Type} (expected : String) (rest : Rest) : Reading α :=
  complain (" (expecting \"" ++ expected ++ "\")") rest

/-- Takes a given token, whose spelling a complaint names. -/
def expect (token : Token) (text : String) (rest : Rest) : Reading Rest :=
  if next rest = token then .ok rest.tail else unexpectedFor text rest

/-- Takes a given word. -/
def expectWord (text : String) (rest : Rest) : Reading Rest := expect (.word text.toList) text rest

/-- Takes a given operator. -/
def expectOperator (text : String) (rest : Rest) : Reading Rest := expect (.operator text) text rest

/-- Whether a list of commands may end here. -/
def listEnds (rest : Rest) : Bool :=
  match next rest with
  | .operator text => text = ")" || text = ";;"
  | token => closers.any (isWord token)

/-- Whether a text can name a variable. -/
def isName (text : Text) : Bool :=
  match text with
  | [] => false
  | first :: rest =>
    (first.isAlpha || first = '_') && rest.all fun char => char.isAlphanum || char = '_'

/-- An assignment by its look. -/
def assignment? (raw : Text) : Option (Text × Text) :=
  match raw.dropWhile (· ≠ '='), raw.takeWhile (· ≠ '=') with
  | _ :: value, name => if isName name then some (name, value) else none
  | [], _ => none

/-- The default descriptor and the effect of a redirection operator. -/
def redirectOf (operator : String) : Option (Nat × RedirectKind) :=
  match operator with
  | "<" => some (0, .input)
  | "<>" => some (0, .update)
  | "<<" | "<<-" => some (0, .document true)
  | ">" => some (1, .output)
  | ">|" => some (1, .overwrite)
  | ">>" => some (1, .append)
  | ">&" => some (1, .duplicate)
  | "<&" => some (0, .duplicate)
  | _ => none

/-- A redirection at the front of the tokens. -/
def redirect? (rest : Rest) : Reading (Option (Redirect × Rest)) :=
  let (number, after) : Option Nat × Rest :=
    match next rest with
    | .descriptor number => (some number, rest.tail)
    | _ => (none, rest)
  match next after with
  | .operator operator =>
    match redirectOf operator with
    | none => .ok none
    | some (standard, kind) =>
      let descriptor := number.getD standard
      match next after.tail with
      | .word target => .ok (some (⟨descriptor, kind, target⟩, after.tail.tail))
      | .document body expanded =>
        .ok (some (⟨descriptor, .document expanded, body⟩, after.tail.tail))
      | _ => unexpected after.tail
  | _ => .ok none

/-- All redirections at the front of the tokens. -/
def redirects (fuel : Nat) (rest : Rest) : Reading (List Redirect × Rest) := do
  match fuel with
  | 0 => return ([], rest)
  | fuel + 1 =>
    match ← redirect? rest with
    | none => return ([], rest)
    | some (redirect, later) =>
      let (more, later) ← redirects fuel later
      return (redirect :: more, later)

/-- The words at the front of the tokens. -/
def words (rest : Rest) : List Text × Rest :=
  match rest with
  | [] => ([], [])
  | first :: later =>
    match first.token with
    | .word raw =>
      let (more, later) := words later
      (raw :: more, later)
    | _ => ([], first :: later)

/-- Adds the parts of a simple command; assignments stand only in front of its words. -/
def simpleParts (fuel : Nat) (command : SimpleCommand) (rest : Rest) :
    Reading (SimpleCommand × Rest) := do
  match fuel with
  | 0 => return (command, rest)
  | fuel + 1 =>
    match ← redirect? rest with
    | some (redirect, later) =>
      simpleParts fuel { command with redirects := command.redirects ++ [redirect] } later
    | none =>
      match next rest with
      | .broken _ => unexpected rest
      | .word raw =>
        match assignment? raw, command.words with
        | some pair, [] =>
          simpleParts fuel { command with assignments := command.assignments ++ [pair] } rest.tail
        | _, _ => simpleParts fuel { command with words := command.words ++ [raw] } rest.tail
      | _ => return (command, rest)

/-- The patterns of an arm, up to its parenthesis. -/
def patterns (fuel : Nat) (rest : Rest) : Reading (List Text × Rest) := do
  match fuel, next rest with
  | fuel + 1, .word raw =>
    if next rest.tail = .operator "|" then
      let (more, later) ← patterns fuel rest.tail.tail
      return (raw :: more, later)
    else
      let later ← expectOperator ")" rest.tail
      return ([raw], later)
  | _, .finish | _, .broken _ => unexpectedFor ")" rest
  | _, _ => unexpectedFor ")" rest.tail

mutual

/-- Reads commands up to what ends a list, which must not be empty unless told so. -/
def readList (fuel : Nat) (mayBeEmpty : Bool) (rest : Rest) : Reading (Command × Rest) := do
  match fuel with
  | 0 => return (.nothing, rest)
  | fuel + 1 =>
    let rest := skipLines rest
    if next rest = .finish || (mayBeEmpty && listEnds rest) then return (.nothing, rest)
    let (first, rest) ← readAndOr fuel rest
    match next rest with
    | .operator ";" | .newline =>
      let (second, rest) ← readList fuel true rest.tail
      return (.sequence first second, rest)
    | .operator "&" =>
      let (second, rest) ← readList fuel true rest.tail
      return (.sequence (.background first) second, rest)
    | _ => return (first, rest)

/-- Reads the commands of a line. -/
def readLine (fuel : Nat) (rest : Rest) : Reading (Command × Rest) := do
  match fuel with
  | 0 => return (.nothing, rest)
  | fuel + 1 =>
    match next rest with
    | .newline => return (.nothing, rest.tail)
    | .finish => return (.nothing, rest)
    | _ =>
      let (first, rest) ← readAndOr fuel rest
      match next rest with
      | .operator ";" =>
        let (second, rest) ← readLine fuel rest.tail
        return (.sequence first second, rest)
      | .operator "&" =>
        let (second, rest) ← readLine fuel rest.tail
        return (.sequence (.background first) second, rest)
      | .newline => return (first, rest.tail)
      | .finish => return (first, rest)
      | _ => unexpected rest

/-- Reads pipelines joined by success and failure. -/
def readAndOr (fuel : Nat) (rest : Rest) : Reading (Command × Rest) := do
  match fuel with
  | 0 => return (.nothing, rest)
  | fuel + 1 =>
    let (first, rest) ← readPipeline fuel rest
    readAndOrFrom fuel first rest

/-- Goes on reading pipelines behind those already joined. -/
def readAndOrFrom (fuel : Nat) (before : Command) (rest : Rest) : Reading (Command × Rest) := do
  match fuel with
  | 0 => return (before, rest)
  | fuel + 1 =>
    match next rest with
    | .operator "&&" =>
      let (later, rest) ← readPipeline fuel (skipLines rest.tail)
      readAndOrFrom fuel (.andThen before later) rest
    | .operator "||" =>
      let (later, rest) ← readPipeline fuel (skipLines rest.tail)
      readAndOrFrom fuel (.orElse before later) rest
    | _ => return (before, rest)

/-- Reads commands joined by pipes, perhaps negated. -/
def readPipeline (fuel : Nat) (rest : Rest) : Reading (Command × Rest) := do
  match fuel with
  | 0 => return (.nothing, rest)
  | fuel + 1 =>
    if isWord (next rest) "!" then
      let (body, rest) ← readPipes fuel rest.tail
      return (.negate body, rest)
    else readPipes fuel rest

/-- Reads commands joined by pipes. -/
def readPipes (fuel : Nat) (rest : Rest) : Reading (Command × Rest) := do
  match fuel with
  | 0 => return (.nothing, rest)
  | fuel + 1 =>
    let (first, rest) ← readCommand fuel rest
    if next rest = .operator "|" then
      let (second, rest) ← readPipes fuel (skipLines rest.tail)
      return (.pipe first second, rest)
    else return (first, rest)

/-- Reads one command with the redirections behind it. -/
def readCommand (fuel : Nat) (rest : Rest) : Reading (Command × Rest) := do
  match fuel with
  | 0 => return (.nothing, rest)
  | fuel + 1 =>
    match ← readCompound fuel rest with
    | some (.define name body, rest) => return (.define name body, rest)
    | some (body, after) =>
      match ← redirects after.length after with
      | ([], after) => return (body, after)
      | (redirects, after) => return (.redirected (lineOf rest) body redirects, after)
    | none =>
      let start := (rest.head?.map PlacedToken.start).getD 1
      let (command, after) ← simpleParts (rest.length + 1) ⟨start, lineOf rest, [], [], []⟩ rest
      if command.assignments.isEmpty && command.words.isEmpty && command.redirects.isEmpty then
        unexpected rest
      else return (.simple command, after)

/-- Reads a command that starts with a reserved word or a parenthesis, if one stands here. -/
def readCompound (fuel : Nat) (rest : Rest) : Reading (Option (Command × Rest)) := do
  match fuel with
  | 0 => return none
  | fuel + 1 =>
    let later := rest.tail
    match next rest with
    | .operator "(" =>
      let (body, after) ← readList fuel false later
      let after ← expectOperator ")" after
      return some (.subshell (lineOf rest) body, after)
    | .word raw =>
      match String.ofList raw with
      | "\x7b" =>
        let (body, rest) ← readList fuel false later
        let rest ← expectWord "\x7d" rest
        return some (body, rest)
      | "if" => some <$> readBranches fuel later
      | "while" | "until" =>
        let (condition, rest) ← readList fuel false later
        let (body, rest) ← readBody fuel rest
        return some (.loop (raw = ['w', 'h', 'i', 'l', 'e']) condition body, rest)
      | "for" => some <$> readEach fuel (lineOf rest) later
      | "case" =>
        match next later with
        | .word word =>
          let after ← expectWord "in" (skipLines later.tail)
          let (arms, after) ← readArms fuel (skipLines after)
          return some (.choose (lineOf rest) word arms, after)
        | _ => unexpected later
      | text =>
        if closers.contains text || text = "!" then unexpected rest
        else if next later = .operator "(" && (assignment? raw).isNone then
          let after ← expectOperator ")" later.tail
          if !isName raw || specialNames.contains text then
            throw ⟨lineOf later, "Syntax error: Bad function name"⟩
          else
            let (body, after) ← readCommand fuel (skipLines after)
            return some (.define raw body, after)
        else return none
    | _ => return none

/-- Reads the repetition of a command for words. -/
def readEach (fuel line : Nat) (rest : Rest) : Reading (Command × Rest) := do
  match fuel with
  | 0 => return (.nothing, rest)
  | fuel + 1 =>
    match next rest with
    | .word name =>
      if !isName name then throw ⟨lineOf rest, "Syntax error: Bad for loop variable"⟩
      else
        let after := skipLines rest.tail
        if isWord (next after) "in" then
          let (items, after) := words after.tail
          if next after = .newline || next after = .operator ";" then
            let (body, after) ← readBody fuel (skipLines after.tail)
            return (.each line name (some items) body, after)
          else unexpected after
        else
          let after := if next after = .operator ";" then after.tail else after
          let (body, after) ← readBody fuel (skipLines after)
          return (.each line name none body, after)
    | .broken _ => unexpected rest
    | _ => throw ⟨lineOf rest, "Syntax error: Bad for loop variable"⟩

/-- Reads the body of a loop. -/
def readBody (fuel : Nat) (rest : Rest) : Reading (Command × Rest) := do
  match fuel with
  | 0 => return (.nothing, rest)
  | fuel + 1 =>
    let rest ← expectWord "do" rest
    let (body, rest) ← readList fuel false rest
    let rest ← expectWord "done" rest
    return (body, rest)

/-- Reads a condition and the commands that it chooses between. -/
def readBranches (fuel : Nat) (rest : Rest) : Reading (Command × Rest) := do
  match fuel with
  | 0 => return (.nothing, rest)
  | fuel + 1 =>
    let (condition, rest) ← readList fuel false rest
    let rest ← expectWord "then" rest
    let (yes, rest) ← readList fuel false rest
    if isWord (next rest) "elif" then
      let (no, rest) ← readBranches fuel rest.tail
      return (.conditional condition yes no, rest)
    else if isWord (next rest) "else" then
      let (no, rest) ← readList fuel false rest.tail
      let rest ← expectWord "fi" rest
      return (.conditional condition yes no, rest)
    else
      let rest ← expectWord "fi" rest
      return (.conditional condition yes .nothing, rest)

/-- Reads the arms of a choice. -/
def readArms (fuel : Nat) (rest : Rest) : Reading (List (List Text × Command) × Rest) := do
  match fuel with
  | 0 => return ([], rest)
  | fuel + 1 =>
    if isWord (next rest) "esac" then return ([], rest.tail)
    else
      let rest := if next rest = .operator "(" then rest.tail else rest
      let (patterns, rest) ← patterns (rest.length + 1) rest
      let (body, rest) ← readList fuel true rest
      if isWord (next rest) "esac" then return ([(patterns, body)], rest.tail)
      else
        let rest ← expectOperator ";;" rest
        let (arms, rest) ← readArms fuel (skipLines rest)
        return ((patterns, body) :: arms, rest)

end

/-- How many steps the reading of some tokens takes at most. -/
def fuelFor (rest : Rest) : Nat := 8 * rest.length + 8

/-- The commands of the next line, which may be empty, unless the script ends here. -/
def nextLine? (rest : Rest) : Reading (Option (Command × Rest)) :=
  if next rest = .finish then .ok none else some <$> readLine (fuelFor rest) rest

/-- The command that a whole script with a number for its first line consists of. -/
def ofScript (line : Nat) (script : Text) : Reading Command := do
  let (command, rest) ← readList (fuelFor (tokens line script)) true (tokens line script)
  if next rest = .finish then return command else unexpected rest

end Command

end Launcher.Shell
