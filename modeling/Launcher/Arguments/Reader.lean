import Launcher.Arguments.Grammar

/-! Reading the arguments of a program, its environment standing in for options not given. -/

namespace Launcher.Arguments

/-- What arguments and environment give to a program. -/
structure Given where
  /-- The values of options, by name. -/
  values : List (String × Bytes) := []
  /-- The options without values that are given. -/
  flags : List String := []
  /-- The other arguments. -/
  positionals : List String := []
  deriving DecidableEq, Repr

/-- Something that was begun and is not settled yet. -/
inductive Pending where
  /-- Nothing. -/
  | nothing
  /-- An option whose value is still to come. -/
  | awaiting (rule : Rule)
  /-- An option with its value. -/
  | valued (rule : Rule) (value : Bytes)
  /-- Arguments that are no options. -/
  | positionals (values : List Bytes)
  deriving DecidableEq, Repr

/-- How far reading has come. -/
structure Progress where
  /-- What is settled. -/
  given : Given := {}
  /-- What is not settled. -/
  pending : Pending := .nothing
  /-- How many arguments were no options. -/
  count : Nat := 0
  deriving DecidableEq, Repr

/-- Fails for a reason. -/
def fail {α : Type} (fault : Fault) : Except Stop α := .error (.fault fault)

namespace Given

/-- Adds the value of an option if it is fit for it. -/
def addValue (given : Given) (rule : Rule) (value : Bytes) : Except Stop Given :=
  if rule.role = .path then
    if value.isEmpty then fail (.valueMissing rule)
    else .ok { given with values := given.values ++ [(rule.long, value)] }
  else if (Utf8.text? value).isNone then fail .notText
  else .ok { given with values := given.values ++ [(rule.long, value)] }

/-- Adds the value of an option that was not given before. -/
def addOption (given : Given) (rule : Rule) (value : Bytes) : Except Stop Given :=
  if (given.values.lookup rule.long).isSome then fail (.repeated rule)
  else given.addValue rule value

/-- Adds an option without a value that was not given before. -/
def addFlag (given : Given) (rule : Rule) : Except Stop Given :=
  if given.flags.contains rule.long then fail (.repeated rule)
  else .ok { given with flags := given.flags ++ [rule.long] }

/-- Adds arguments that are no options, which have to be text. -/
def addPositionals (given : Given) : List Bytes → Except Stop Given
  | [] => .ok given
  | value :: rest =>
    match Utf8.text? value with
    | some text => addPositionals { given with positionals := given.positionals ++ [text] } rest
    | none => fail .notText

end Given

namespace Progress

/-- Settles what was begun. -/
def settle (progress : Progress) : Except Stop Progress :=
  match progress.pending with
  | .nothing => .ok progress
  | .awaiting rule => fail (.valueMissing rule)
  | .valued rule value =>
    (progress.given.addOption rule value).map fun given =>
      { progress with given, pending := .nothing }
  | .positionals values =>
    (progress.given.addPositionals values).map fun given =>
      { progress with given, pending := .nothing }

/-- Takes an option without a value of its own. -/
def takeFlag (progress : Progress) (rule : Rule) : Except Stop Progress := do
  let progress ← progress.settle
  match rule.role with
  | .version => throw .version
  | .help => throw .help
  | .text | .path | .flag => return { progress with given := ← progress.given.addFlag rule }

/-- Takes an option with a value joined to it, or one whose value may follow. -/
def takeOption (progress : Progress) (rule : Rule) (joined : Option Bytes) : Except Stop Progress :=
  if rule.takesValue then do
    let progress ← progress.settle
    match joined with
    | some value => return { progress with given := ← progress.given.addOption rule value }
    | none => return { progress with pending := .awaiting rule }
  else
    match joined with
    | some value => fail (.valueUnexpected rule (Utf8.lossy value))
    | none => progress.takeFlag rule

/-- Takes the options that letters stand for; what is unknown or no text is complained about. -/
def takeLetters (grammar : Grammar) (progress : Progress) (junk : Bytes) :
    List Char → Except Stop Progress
  | [] => if junk.isEmpty then .ok progress else fail (.unknown ("-" ++ Utf8.lossy junk))
  | letter :: rest => do
    match grammar.rules.find? fun rule => rule.short = some letter with
    | none => fail (.unknown (String.ofList ['-', letter]))
    | some rule => takeLetters grammar (← progress.takeFlag rule) junk rest

/-- Takes arguments that are no options. -/
def takePositionals (grammar : Grammar) (progress : Progress) (arguments : List Bytes) :
    Except Stop Progress :=
  match arguments with
  | [] => .ok progress
  | argument :: rest =>
    match grammar.tail with
    | .everything =>
      progress.settle.map fun progress => { progress with pending := .positionals arguments }
    | .atMost most =>
      if progress.count < most then do
        let progress ← progress.settle
        takePositionals grammar
          { progress with pending := .positionals [argument], count := progress.count + 1 } rest
      else fail (.unknown (Utf8.lossy argument))

end Progress

/-- The byte of the hyphen. -/
def hyphen : UInt8 := 0x2D

/-- The byte of the equals sign. -/
def equals : UInt8 := 0x3D

/-- The name and the joined value of an argument that begins like a named option. -/
def named? (argument : Bytes) : Option (Bytes × Option Bytes) :=
  match argument with
  | first :: second :: rest =>
    if first = hyphen && second = hyphen && !rest.isEmpty then
      some (rest.takeWhile (· ≠ equals),
        match rest.dropWhile (· ≠ equals) with
        | [] => none
        | _ :: value => some value)
    else none
  | _ => none

/-- What stands behind a single hyphen. -/
def letters? (argument : Bytes) : Option Bytes :=
  match argument with
  | first :: second :: rest =>
    if first = hyphen && second ≠ hyphen then some (second :: rest) else none
  | _ => none

/-- The argument behind which there are no more options. -/
def separator : Bytes := [hyphen, hyphen]

/-- What an argument is, where options are looked for. -/
inductive Reading where
  /-- An option by its name, perhaps with a value joined to it. -/
  | named (rule : Rule) (joined : Option Bytes)
  /-- Options by their letters, and what behind these is not text. -/
  | letters (letters : List Char) (junk : Bytes)
  /-- An option that the program does not know. -/
  | unknown (argument : String)
  /-- A value or an argument of another kind. -/
  | other
  deriving DecidableEq, Repr

/-- What an argument is, where options are looked for.

A program that takes everything also takes what only looks like an option, unless
its name is no text. -/
def Grammar.classify (grammar : Grammar) (argument : Bytes) : Reading :=
  match named? argument, letters? argument with
  | some (name, joined), _ =>
    match Utf8.text? name with
    | none => .unknown ("--" ++ Utf8.lossy name)
    | some name =>
      match grammar.rules.find? (fun rule => rule.long = name), grammar.tail with
      | some rule, _ => .named rule joined
      | none, .everything => .other
      | none, .atMost _ => .unknown ("--" ++ name)
  | none, some bytes =>
    let (letters, junk) := Utf8.splitValid bytes
    let known (letter : Char) : Bool := grammar.rules.any fun rule => rule.short = some letter
    if grammar.tail = .everything && !(letters.all known && junk.isEmpty) then .other
    else .letters letters junk
  | none, none => .other

/-- Reads arguments in order. -/
def read (grammar : Grammar) (progress : Progress) : List Bytes → Except Stop Progress
  | [] => .ok progress
  | argument :: rest =>
    if argument = separator then progress.takePositionals grammar rest
    else
      match grammar.classify argument, progress.pending with
      | .unknown text, _ => fail (.unknown text)
      | .named rule joined, _ => do read grammar (← progress.takeOption rule joined) rest
      | .letters letters junk, _ => do
        read grammar (← progress.takeLetters grammar junk letters) rest
      | .other, .awaiting rule =>
        read grammar { progress with pending := .valued rule argument } rest
      | .other, _ =>
        match grammar.tail with
        | .everything => progress.takePositionals grammar (argument :: rest)
        | .atMost most =>
          if progress.count < most then do
            let progress ← progress.settle
            read grammar
              { progress with pending := .positionals [argument], count := progress.count + 1 } rest
          else fail (.unknown (Utf8.lossy argument))

/-- The variables of an environment. -/
abbrev Environment := List (String × Bytes)

/-- Gives options that are missing the values of their environment variables. -/
def addEnvironment (environment : Environment) (given : Given) : List Rule → Except Stop Given
  | [] => .ok given
  | rule :: rest =>
    match given.values.lookup rule.long, rule.environment.bind (environment.lookup ·) with
    | none, some value => do addEnvironment environment (← given.addValue rule value) rest
    | _, _ => addEnvironment environment given rest

/-- What arguments and environment give to a program. -/
def Grammar.read (grammar : Grammar) (environment : Environment) (arguments : List Bytes) :
    Except Stop Given := do
  let progress ← (← Arguments.read grammar {} arguments).settle
  addEnvironment environment progress.given grammar.rules

namespace Given

/-- The value of an option as text, or a default one. -/
def text (given : Given) (name default : String) : String :=
  match given.values.lookup name with
  | some value => Utf8.lossy value
  | none => default

end Given

end Launcher.Arguments
