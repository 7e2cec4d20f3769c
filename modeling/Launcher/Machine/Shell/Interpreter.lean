import Launcher.Machine.Shell.Launching
import Launcher.Machine.Shell.Parameter

/-! Carrying out the commands of a shell script. -/

namespace Launcher.Shell

open Builtin (Effect)

/-- How a shell speaks of a path that cannot be opened or executed. -/
def reason (missing : String) (cause : Cause) : Text :=
  .ofString (if cause = .notFound || cause = .notDirectory then missing else cause.description)

/-- The words of a text between blanks. -/
def blankWords (text : Text) : List Text :=
  (Field.split [' ', '\t', '\n'] (text.map .soft) none .none).map Mark.text

/-- The script's own lines in a range, counted from zero. -/
def linesBetween (lines : List Text) (first last : Nat) : Text :=
  ((lines.drop first).take (last - first)).flatten

/-- Tells what names mean to the shell. -/
def describeAll (brief : Bool) (names : List Text) : Effect Nat :=
  names.foldlM (fun status name => do
    let (text, found) := Builtin.describe brief (← get) name
    Builtin.say text
    return max status found) 0

mutual

/-- Carries out a command; failure of a tested one is only looked at. -/
def execute (fuel : Nat) (tested : Bool) (command : Command) : StateM State Flow := do
  match fuel with
  | 0 => giveUp (.ofString "too deep")
  | fuel + 1 =>
    if (← get).hasFlag 'n' then return .normal
    match command with
    | .nothing => return .normal
    | .sequence first second =>
      match ← execute fuel tested first with
      | .normal => execute fuel tested second
      | flow => return flow
    | .andThen first second =>
      match ← execute fuel true first with
      | .normal => if (← get).status = 0 then execute fuel tested second else return .normal
      | flow => return flow
    | .orElse first second =>
      match ← execute fuel true first with
      | .normal => if (← get).status = 0 then return .normal else execute fuel tested second
      | flow => return flow
    | .negate body =>
      match ← execute fuel true body with
      | .normal =>
        modify fun state => state.succeed (state.status ≠ 0)
        return .normal
      | flow => return flow
    | .conditional condition yes no =>
      match ← execute fuel true condition with
      | .normal =>
        if (← get).status = 0 then execute fuel tested yes
        else
          match no with
          | .nothing => modify (·.withStatus 0)
          | _ => pure ()
          execute fuel tested no
      | flow => return flow
    | .loop while_ condition body =>
      let loops := (← get).loops
      modify fun state => { state with loops := loops + 1 }
      let flow ← repeatWhile fuel tested while_ condition body 0
      modify fun state => { state with loops }
      return flow
    | .each line name words body =>
      modify fun state => { state with line }
      let items : Effect (List Text) :=
        match words with
        | none => return (← get).parameters
        | some words => expandWords fuel false words
      match ← items.run with
      | .error complaint => giveUp complaint
      | .ok items =>
        let loops := (← get).loops
        modify fun state => { state with loops := loops + 1, status := 0 }
        let flow ← repeatFor fuel tested name items body
        modify fun state => { state with loops }
        return flow
    | .choose line word arms =>
      modify fun state => { state with line }
      match ← (expand fuel .bare true word).run with
      | .error complaint => giveUp complaint
      | .ok marks =>
        modify (·.withStatus 0)
        chooseArm fuel tested (joined (← get) marks) arms
    | .subshell line body =>
      let outer := { ← get with line }
      let (ending, inner) := (inside fuel tested body).run outer.subshell
      set (outer.after inner)
      note ending
      checkFailure tested (← settle fuel .normal)
    | .background body =>
      let outer ← get
      let (ending, inner) := (inside fuel false body).run (outer.subshell.connect 0 (some .null))
      let state := outer.after inner
      set { state with jobs := (inner.self, statusOf ending) :: state.jobs, status := 0 }
      settle fuel .normal
    | .pipe first second =>
      let outer ← get
      let level := outer.captures.length
      let (_, inner) := (inside fuel tested first).run
        { outer.subshell.connect 1 (some (.capture level)) with
          captures := outer.captures ++ [[]] }
      let piped := ((inner.captures[level]?).getD []).reverse.flatten
      let between := outer.after { inner with captures := inner.captures.take level }
      let (ending, inner) := (inside fuel tested second).run
        (between.subshell.supply 0 (.held piped))
      set (between.after inner)
      note ending
      checkFailure tested (← settle fuel .normal)
    | .redirected line body redirects =>
      modify fun state => { state with line }
      let outer ← get
      match ← (redirect fuel redirects).run with
      | .error complaint => giveUp complaint
      | .ok (some complaint) =>
        modify fun state => { (state.complainHere complaint).withStatus 2 with
          descriptors := outer.descriptors }
        checkFailure tested .normal
      | .ok none =>
        let flow ← execute fuel tested body
        modify fun state => { state with descriptors := outer.descriptors }
        return flow
    | .define name body =>
      modify fun state => { state with
        functions := (name, body) :: state.functions.filter fun entry => entry.1 ≠ name
        status := 0 }
      return .normal
    | .simple command => simple fuel tested command

/-- Carries out a command to the end of its process. -/
def inside (fuel : Nat) (tested : Bool) (command : Command) : StateM State Ending := do
  match fuel with
  | 0 => return .exited 2
  | fuel + 1 => finish fuel (← execute fuel tested command)

/-- Does what is left for the end of a process. -/
def finish (fuel : Nat) (flow : Flow) : StateM State Ending := do
  match fuel with
  | 0 => return .exited 2
  | fuel + 1 =>
    let state ← get
    match flow, state.traps.lookup 0 with
    | .killed signal, _ => return .signaled signal
    | _, none | _, some [] => return endingOf state
    | _, some action =>
      -- What is left for the end leaves the status alone, unless it ends the shell itself.
      set { state with traps := state.traps.filter fun entry => entry.1 ≠ 0 }
      match ← runText fuel false action with
      | .killed signal => return .signaled signal
      | .exit => return endingOf (← get)
      | _ => return endingOf state

/-- Carries out a simple command: expands its words, redirects, assigns and runs. -/
def simple (fuel : Nat) (tested : Bool) (command : SimpleCommand) : StateM State Flow := do
  match fuel with
  | 0 => giveUp (.ofString "too deep")
  | fuel + 1 =>
    modify fun state => { state with
      line := command.line, startLine := command.start, substituted := false }
    let declares := ["export", "readonly", "local"].map String.toList
    let first := command.words.head?.getD []
    match ← (expandWords fuel (declares.contains first) command.words).run with
    | .error complaint => giveUp complaint
    | .ok words =>
      let outer ← get
      let name := words.head?.getD []
      let special := Command.specialNames.contains (String.ofList name)
      match ← (redirect fuel command.redirects).run with
      | .error complaint => giveUp complaint
      | .ok (some complaint) =>
        modify fun state => { (state.complainHere complaint).withStatus 2 with
          descriptors := outer.descriptors }
        if special then return .exit else checkFailure tested .normal
      | .ok none =>
        let lasting := words.isEmpty || special
        match ← (assign fuel lasting command.assignments).run with
        | .error complaint =>
          let flow ← giveUp complaint
          modify fun state => { state with descriptors := outer.descriptors }
          return flow
        | .ok assigned =>
          trace fuel (outer.channel? 2) (assigned ++ words)
          let flow ←
            if words.isEmpty then do
              modify fun state => if state.substituted then state else state.withStatus 0
              pure Flow.normal
            else call fuel tested false name words.tail
          let keeps := words = ["exec".toList]
          modify fun state =>
            let state := if keeps then state
              else { state with descriptors := outer.descriptors }
            if lasting then state
            else command.assignments.foldl (fun state entry =>
              state.bind entry.1 (outer.binding? entry.1)) state
          checkFailure tested (← settle fuel flow)

/-- Assigns values in order; the texts given back show what has been assigned. -/
def assign (fuel : Nat) (lasting : Bool) (assignments : List (Text × Text)) :
    Effect (List Text) := do
  match fuel, assignments with
  | 0, _ | _, [] => return []
  | fuel + 1, (name, raw) :: later =>
    let marks ← expand fuel .assigned true raw
    let value := joined (← get) marks
    if (← get).isFixed name then throw (name ++ .ofString ": is read only")
    modify fun state =>
      let state := state.assign name value
      if lasting then state else state.handOn name
    let more ← assign fuel lasting later
    return (name ++ '=' :: value) :: more

/-- Shows what is about to be carried out, if asked for. -/
def trace (fuel : Nat) (channel : Option Channel) (words : List Text) : StateM State Unit := do
  match fuel with
  | 0 => pure ()
  | fuel + 1 =>
    let state ← get
    if state.hasFlag 'x' then
      let raw := (state.valueOf "PS4".toList).getD []
      let (start, _) := ((expand fuel .double false raw).run).run (state.setFlag 'x' false)
      let start := match start with
        | .ok marks => Mark.text marks
        | .error _ => []
      let line := start ++ List.intercalate [' '] words ++ ['\n']
      match channel with
      | some channel => modify (·.writeTo channel (Text.bytes line))
      | none => pure ()

/-- Runs a function, a builtin or a program; a plain call is one of no function. -/
def call (fuel : Nat) (tested plain : Bool) (name : Text) (arguments : List Text) :
    StateM State Flow := do
  match fuel with
  | 0 => giveUp (.ofString "too deep")
  | fuel + 1 =>
    let outer ← get
    match if plain then none else outer.functions.lookup name with
    | some body =>
      set { outer with parameters := arguments, frames := [] :: outer.frames, loops := 0 }
      let flow ← execute fuel tested body
      modify fun state =>
        let state := (state.frames.headD []).foldl (fun state entry =>
          state.bind entry.1 entry.2) state
        { state with parameters := outer.parameters, frames := outer.frames, loops := outer.loops }
      match flow with
      | .giveBack | .leave _ | .goOn _ => return .normal
      | flow => return flow
    | none =>
      let text := String.ofList name
      let special := !plain && Command.specialNames.contains text
      match text with
      | "exit" | "return" =>
        let leave : Flow := if text = "exit" then .exit else .giveBack
        match arguments with
        | [] => return leave
        | word :: _ =>
          match Arithmetic.count? word with
          | some status =>
            modify (·.withStatus status)
            return leave
          | none => runBuiltin special name (Builtin.failOn "Illegal number: " word)
      | "break" | "continue" =>
        let word := arguments.head?.getD ['1']
        match Arithmetic.count? word with
        | none | some 0 => runBuiltin special name (Builtin.failOn "Illegal number: " word)
        | some count =>
          modify (·.withStatus 0)
          let count := min count outer.loops
          if count = 0 then return .normal
          else return if text = "break" then .leave count else .goOn count
      | "eval" =>
        modify fun state => { state with commandName := some name, status := 0 }
        let flow ← runText fuel tested (List.intercalate [' '] arguments)
        modify fun state => { state with commandName := outer.commandName }
        return flow
      | "." => source fuel special arguments
      | "command" => explain fuel tested arguments
      | "type" => runBuiltin special name (describeAll false arguments)
      | "exec" =>
        match arguments with
        | [] => return .normal
        | program :: arguments =>
          modify fun state => { state with commandName := some name }
          match ← runNamed fuel program arguments with
          | some (.signaled signal) => return .killed signal.toNat
          | some ending =>
            modify fun state => { state.withStatus (statusOf ending) with traps := [] }
            return .exit
          | none => return .exit
      | text =>
        match Builtin.table.lookup text with
        | some effect => runBuiltin special name (effect arguments)
        | none =>
          match ← runNamed fuel name arguments with
          | some ending => note ending
          | none => pure ()
          return .normal

/-- Calls a command that is no function, or tells what a name means. -/
def explain (fuel : Nat) (tested : Bool) (arguments : List Text) : StateM State Flow := do
  match fuel with
  | 0 => giveUp (.ofString "too deep")
  | fuel + 1 =>
    let name := "command".toList
    match arguments with
    | ('-' :: _) :: _ =>
      let (result, _) := (Builtin.flags ['p', 'v', 'V'] arguments).run.run (← get)
      match result with
      | .error complaint => runBuiltin false name (throw complaint)
      | .ok (letters, words) =>
        if letters.contains 'v' || letters.contains 'V' then
          runBuiltin false name (describeAll (letters.contains 'v') (words.take 1))
        else
          match words with
          | [] => return .normal
          | program :: arguments => call fuel tested true program arguments
    | program :: arguments => call fuel tested true program arguments
    | [] =>
      modify (·.withStatus 0)
      return .normal

/-- Carries out a file in the running shell. -/
def source (fuel : Nat) (special : Bool) (arguments : List Text) : StateM State Flow := do
  match fuel with
  | 0 => giveUp (.ofString "too deep")
  | fuel + 1 =>
    let outer ← get
    match arguments with
    | [] =>
      modify (·.withStatus 0)
      return .normal
    | path :: _ =>
      let found := if path.contains '/' then some path
        else (Builtin.searchPath outer).findSome? fun directory =>
          let whole := if directory.isEmpty then path else directory ++ '/' :: path
          match outer.files.open? outer.directory whole.bytes with
          | .ok (_, .file _ _) => some whole
          | _ => none
      match found with
      | none => runBuiltin special ['.'] (throw (path ++ .ofString ": not found"))
      | some path =>
        match outer.readFile path with
        | .error cause =>
          runBuiltin special ['.'] (throw
            (.ofString "cannot open " ++ path ++ .ofString ": " ++ reason "No such file" cause))
        | .ok (content, state) =>
          let text := Text.ofBytes content
          set { state with commandName := some path, status := 0 }
          let flow ← runLines fuel false (Utility.lines text) 0 (tokens 1 text)
          modify fun state => { state with commandName := outer.commandName }
          return if flow = .giveBack then .normal else flow

/-- Runs a program by its name; none is given back if there is no such program. -/
def runNamed (fuel : Nat) (name : Text) (arguments : List Text) : StateM State (Option Ending) := do
  match fuel with
  | 0 => return some (.exited 2)
  | fuel + 1 =>
    let state ← get
    let fails (status : Nat) (complaint : Text) : StateM State (Option Ending) := do
      let complaint := name ++ .ofString ": " ++ complaint
      modify fun state => (state.complainHere complaint).withStatus status
      return none
    if name.isEmpty then fails 127 (.ofString Cause.denied.description)
    else
      match if name.contains '/' then .ok name else Builtin.pathOf state name with
      | .error cause => fails 127 (reason "not found" cause)
      | .ok path =>
        match Executable.ofPath state.files state.directory Executable.mostFiles path.bytes with
        | .ok executable =>
          some <$> runProgram fuel executable.program ((executable.name.map Text.ofBytes).getD name)
            (executable.leading.map Text.ofBytes ++ arguments)
        | .error cause =>
          -- A file that is no program may still be a script.
          if cause = .notExecutable then some <$> runProgram fuel "sh" name (path :: arguments)
          else
            let isMissing :=
              [Cause.notFound, .notDirectory, .tooManyLinks, .nameTooLong].contains cause
            fails (if isMissing then 127 else 126) (reason "not found" cause)

/-- Runs a program of the machine to the end of its process. -/
def runProgram (fuel : Nat) (program : String) (called : Text) (arguments : List Text) :
    StateM State Ending := do
  match fuel with
  | 0 => return .exited 2
  | fuel + 1 =>
    let outer ← get
    let (ending, inner) ← do
      match program with
      | "sh" | "dash" =>
        pure ((runShell fuel arguments).run (outer.enter.newShell called))
      | "env" => pure ((runIn fuel called arguments).run outer.enter)
      | program =>
        match Utility.run? program called arguments with
        | some work =>
          let (status, inner) := work.run outer.enter
          pure (.exited status, inner)
        | none =>
          -- What the launcher runs in its turn may nest one step less.
          let children : Runner :=
            fun name called arguments => runProgram fuel name called arguments
          pure ((runLauncher children program arguments).run outer.enter)
    set (outer.after inner)
    return ending

/-- Runs a program with other variables handed on to it. -/
def runIn (fuel : Nat) (called : Text) (arguments : List Text) : StateM State Ending := do
  match fuel with
  | 0 => return .exited 2
  | fuel + 1 =>
    let fails (status : Nat) (complaint : Text) : StateM State Ending := do
      modify (·.complain (called ++ [':', ' '] ++ complaint))
      return .exited status
    let clear (state : State) : State :=
      { state with bindings := state.bindings.map fun (name, known) =>
          (name, { known with exported := false }) }
    match arguments with
    | ['-'] :: rest | ['-', 'i'] :: rest =>
      modify clear
      runIn fuel called rest
    | ['-', 'u'] :: name :: rest =>
      modify (·.bind name none)
      runIn fuel called rest
    | ['-', 'S'] :: text :: rest => runIn fuel called (blankWords text ++ rest)
    | ('-' :: 'S' :: text) :: rest => runIn fuel called (blankWords text ++ rest)
    | ['-', '-'] :: rest => runIn fuel called rest
    | ('-' :: letter :: _) :: _ =>
      fails 125 (.ofString "invalid option -- '" ++ [letter] ++ .ofString "'\nTry '" ++ called ++
        .ofString " --help' for more information.")
    | word :: rest =>
      if word.contains '=' then
        let name := word.takeWhile (· ≠ '=')
        modify fun state => (state.bind name none).bind name
          (some { value := some (word.drop (name.length + 1)), exported := true })
        runIn fuel called rest
      else
        let state ← get
        match if word.isEmpty then .error .notFound
          else if word.contains '/' then .ok word else Builtin.pathOf state word with
        | .error cause => missing fails cause word
        | .ok path =>
          match Executable.ofPath state.files state.directory Executable.mostFiles path.bytes with
          | .error cause =>
            if cause = .notExecutable then runProgram fuel "sh" word (path :: rest)
            else missing fails cause word
          | .ok executable =>
            runProgram fuel executable.program ((executable.name.map Text.ofBytes).getD word)
              (executable.leading.map Text.ofBytes ++ rest)
    | [] =>
      let state ← get
      set (state.print (state.environment.flatMap fun (name, value) =>
        name ++ '=' :: value ++ ['\n']))
      return .exited 0
where
  /-- Complains about a program that cannot be executed. -/
  missing (fails : Nat → Text → StateM State Ending) (cause : Cause) (word : Text) :
      StateM State Ending := do
    let ending ← fails (if cause = .notFound then 127 else 126) (Utility.about "" word cause)
    if cause = .notFound && word.any Arithmetic.isSpace then
      let _ ← fails 127 (.ofString "use -[v]S to pass options in shebang lines")
    return ending

/-- Reads the arguments of a shell and runs the script that they give or name. -/
def runShell (fuel : Nat) (arguments : List Text) : StateM State Ending := do
  match fuel with
  | 0 => return .exited 2
  | fuel + 1 =>
    let fails (complaint : Text) : StateM State Ending := do
      modify (·.complainHere complaint)
      return .exited 2
    match ← (Builtin.setOptions true (arguments.length + 1) arguments).run with
    | .error complaint => fails complaint
    | .ok rest =>
      let state ← get
      match state.givenText, state.hasFlag 's', rest.getD [] with
      | true, _, [] => fails (.ofString "-c requires an argument")
      | true, _, script :: rest =>
        set { state with name := rest.head?.getD state.name, parameters := rest.tail }
        finish fuel (← runText fuel false script)
      | false, false, path :: parameters =>
        match state.openInput path with
        | .error cause =>
          fails (.ofString "cannot open " ++ path ++ .ofString ": " ++ reason "No such file" cause)
        | .ok (channel, state) =>
          let (bytes, state) := (state.drain channel).toOption.getD ([], state)
          set { state with name := path, parameters }
          runScript fuel (.ofBytes bytes)
      | false, _, parameters =>
        let (bytes, state) := (state.input >>= state.drain).toOption.getD ([], state)
        set { state.setFlag 's' true with parameters }
        runScript fuel (.ofBytes bytes)

/-- Runs a script to the end of its process. -/
def runScript (fuel : Nat) (script : Text) : StateM State Ending := do
  match fuel with
  | 0 => return .exited 2
  | fuel + 1 =>
    let state ← get
    if state.hasFlag 'm' || state.hasFlag 'i' then
      set (({ state with line := 0 }.complainHere
        (.ofString "can't access tty; job control turned off")).setFlag 'm' false)
    finish fuel (← runLines fuel false (Utility.lines script) 0 (tokens 1 script))

/-- Carries out a text as commands of the running shell. -/
def runText (fuel : Nat) (tested : Bool) (text : Text) : StateM State Flow := do
  match fuel with
  | 0 => giveUp (.ofString "too deep")
  | fuel + 1 => runLines fuel tested [] 0 (tokens 1 text)

/-- Carries out commands line by line; lines that are read are shown if asked for. -/
def runLines (fuel : Nat) (tested : Bool) (lines : List Text) (shown : Nat) (rest : Command.Rest) :
    StateM State Flow := do
  match fuel with
  | 0 => giveUp (.ofString "too deep")
  | fuel + 1 =>
    let showTo (line : Nat) : StateM State Unit := modify fun state =>
      if state.hasFlag 'v' then state.write 2 (linesBetween lines shown line) else state
    match Command.nextLine? rest with
    | .error complaint =>
      showTo complaint.line
      modify fun state => { state with line := complaint.line }
      giveUp (.ofString complaint.text)
    | .ok none =>
      showTo lines.length
      return .normal
    | .ok (some (command, later)) =>
      let reached :=
        match later with
        | placed :: _ => if placed.token = .finish then lines.length else placed.start - 1
        | [] => lines.length
      showTo reached
      match ← execute fuel tested command with
      | .normal => runLines fuel tested lines reached later
      | flow => return flow

/-- Deals with the signals that were sent to the process. -/
def settle (fuel : Nat) (flow : Flow) : StateM State Flow := do
  match fuel with
  | 0 => return flow
  | fuel + 1 =>
    let state ← get
    match state.pending.find? fun entry => entry.1 = state.self with
    | none => return flow
    | some (process, signal) =>
      set { state with pending := state.pending.erase (process, signal) }
      let trap := if Signal.uncatchable.contains signal then none else state.traps.lookup signal
      match trap with
      | some [] => settle fuel flow
      | some action =>
        match ← runText fuel false action with
        | .normal =>
          modify (·.withStatus state.status)
          settle fuel flow
        | flow => return flow
      | none =>
        if Signal.harmless.contains signal then settle fuel flow else return .killed signal

/-- Repeats a command as long as a condition succeeds, or fails. -/
def repeatWhile (fuel : Nat) (tested while_ : Bool) (condition body : Command) (status : Nat) :
    StateM State Flow := do
  match fuel with
  | 0 => giveUp (.ofString "too deep")
  | fuel + 1 =>
    let again (status : Nat) : StateM State Flow :=
      repeatWhile fuel tested while_ condition body status
    match ← execute fuel true condition with
    | .normal =>
      if ((← get).status = 0) ≠ while_ then
        modify (·.withStatus status)
        return .normal
      else
        match ← execute fuel tested body with
        | .normal => again (← get).status
        | .goOn loops => if loops ≤ 1 then again (← get).status else return .goOn (loops - 1)
        | .leave loops => return if loops ≤ 1 then .normal else .leave (loops - 1)
        | flow => return flow
    | .goOn loops => if loops ≤ 1 then again status else return .goOn (loops - 1)
    | .leave loops => return if loops ≤ 1 then .normal else .leave (loops - 1)
    | flow => return flow

/-- Repeats a command for texts. -/
def repeatFor (fuel : Nat) (tested : Bool) (name : Text) (items : List Text) (body : Command) :
    StateM State Flow := do
  match fuel, items with
  | 0, _ => giveUp (.ofString "too deep")
  | _, [] => return .normal
  | fuel + 1, item :: later =>
    if (← get).isFixed name then giveUp (name ++ .ofString ": is read only")
    else
      modify (·.assign name item)
      match ← execute fuel tested body with
      | .normal => repeatFor fuel tested name later body
      | .goOn loops =>
        if loops ≤ 1 then repeatFor fuel tested name later body else return .goOn (loops - 1)
      | .leave loops => return if loops ≤ 1 then .normal else .leave (loops - 1)
      | flow => return flow

/-- Carries out the first arm with a pattern that a text matches. -/
def chooseArm (fuel : Nat) (tested : Bool) (text : Text) (arms : List (List Text × Command)) :
    StateM State Flow := do
  match fuel, arms with
  | 0, _ => giveUp (.ofString "too deep")
  | _, [] => return .normal
  | fuel + 1, (patterns, body) :: later =>
    match ← (matchesOne fuel text patterns).run with
    | .error complaint => giveUp complaint
    | .ok true => execute fuel tested body
    | .ok false => chooseArm fuel tested text later

/-- Whether a text matches one of some patterns. -/
def matchesOne (fuel : Nat) (text : Text) (patterns : List Text) : Effect Bool := do
  match fuel, patterns with
  | 0, _ | _, [] => return false
  | fuel + 1, pattern :: later =>
    let marks ← expand fuel .bare true pattern
    if Pattern.matchesText marks text then return true else matchesOne fuel text later

/-- Carries out redirections in order; what is given back is the complaint about one that fails. -/
def redirect (fuel : Nat) (redirects : List Redirect) : Effect (Option Text) := do
  match fuel, redirects with
  | 0, _ | _, [] => return none
  | fuel + 1, redirection :: later =>
    let descriptor := redirection.descriptor
    match redirection.kind with
    | .document expanded =>
      let body ←
        if expanded then pure (Mark.text (← expand fuel .document false redirection.target))
        else pure redirection.target
      modify (·.supply descriptor (.held body.bytes))
      redirect fuel later
    | kind =>
      let marks ← expand fuel .bare true redirection.target
      let target := joined (← get) marks
      let state ← get
      let cannot (verb missing : String) (cause : Cause) : Text :=
        .ofString ("cannot " ++ verb ++ " ") ++ target ++ [':', ' '] ++
          if cause = .system 17 then .ofString cause.description else reason missing cause
      match kind with
      | .duplicate =>
        match target with
        | ['-'] =>
          set (state.connect descriptor none)
          redirect fuel later
        | [digit] =>
          if digit.isDigit then
            match state.channel? (digit.toNat - '0'.toNat) with
            | some channel =>
              set (state.connect descriptor (some channel))
              redirect fuel later
            | none => return some ([digit] ++ .ofString ": Bad file descriptor")
          else badNumber state
        | _ => badNumber state
      | .input =>
        match state.openInput target with
        | .error cause => return some (cannot "open" "No such file" cause)
        | .ok (channel, state) =>
          set (state.connect descriptor (some channel))
          redirect fuel later
      | .update =>
        match state.openOutput .append target with
        | .error cause => return some (cannot "create" "Directory nonexistent" cause)
        | .ok (.file place, files) =>
          set ({ state with files }.supply descriptor (.file place))
          redirect fuel later
        | .ok (channel, files) =>
          set ({ state with files }.connect descriptor (some channel))
          redirect fuel later
      | kind =>
        match state.openOutput kind target with
        | .error cause => return some (cannot "create" "Directory nonexistent" cause)
        | .ok (channel, files) =>
          set ({ state with files }.connect descriptor (some channel))
          redirect fuel later
where
  /-- Complains about something that is no descriptor. -/
  badNumber (state : State) : Effect (Option Text) := do
    set { state with line := state.line + 1 }
    throw (.ofString "Syntax error: Bad fd number")

/-- The words that words expand to; assignments among them stay whole if so. -/
def expandWords (fuel : Nat) (declares : Bool) (words : List Text) : Effect (List Text) := do
  match fuel, words with
  | 0, _ | _, [] => return []
  | fuel + 1, word :: later =>
    let found ←
      match if declares then Command.assignment? word else none with
      | some (name, raw) => do
        let marks ← expand fuel .assigned true raw
        pure [name ++ '=' :: joined (← get) marks]
      | none => do
        let marks ← expand fuel .bare true word
        pure (Field.words (← get) marks)
    let more ← expandWords fuel declares later
    return found ++ more

/-- The marks that a text expands to; a tilde may stand for a directory at the start. -/
def expand (fuel : Nat) (context : Context) (atStart : Bool) (raw : Text) :
    Effect (List Mark) := do
  match fuel, raw with
  | 0, _ | _, [] => return []
  | fuel + 1, char :: rest =>
    let literal (char : Char) : List Mark :=
      [if context.isQuoted then .quoted char else .plain char]
    let (marks, rest) : List Mark × Text ←
      match char, context, rest with
      | '\\', _, '\n' :: later => pure ([], later)
      | '\\', context, next :: later =>
        let kept := context.escapable?.any (!·.contains next)
        pure (if kept then [.quoted '\\', .quoted next] else [.quoted next], later)
      | '\\', _, [] => pure ([.quoted '\\'], [])
      | '\'', .bare, rest | '\'', .assigned, rest =>
        let (inside, later) := takeOpened .single [] rest
        pure (.present :: inside.map .quoted, later)
      | '"', .bare, rest | '"', .assigned, rest | '"', .double, rest =>
        let (inside, later) := takeOpened .double [] rest
        -- No positional parameters make no word, even in quotes.
        let parameters := ["$@", "$\x7b@\x7d"].map String.toList
        if parameters.contains inside && (← get).parameters.isEmpty then pure ([], later)
        else
          let marks ← expand fuel .double false inside
          pure (if context = .double then marks else .present :: marks, later)
      | '`', context, rest =>
        let (inside, later) := takeOpened .tick [] rest
        let text ← substitute fuel 1 (unquoteTicks (context = .double) inside)
        pure (marksOf context.isQuoted text, later)
      | '$', context, rest => expandParameter fuel context rest
      | '~', .bare, rest | '~', .assigned, rest =>
        let name := rest.takeWhile fun char =>
          char ≠ '/' && !(char = ':' && context = .assigned)
        match atStart, name with
        | true, [] =>
          match (← get).valueOf "HOME".toList with
          | some home => pure (home.map .quoted, rest)
          | none => pure ([.plain '~'], rest)
        | _, _ => pure ([.plain '~'], rest)
      | char, _, rest => pure (literal char, rest)
    let more ← expand fuel context (char = ':' && context = .assigned) rest
    return marks ++ more

/-- The marks of what stands behind a dollar sign, and what follows. -/
def expandParameter (fuel : Nat) (context : Context) (raw : Text) : Effect (List Mark × Text) := do
  match fuel with
  | 0 => return ([], raw)
  | fuel + 1 =>
    let quoted := context.isQuoted
    match raw with
    | '(' :: '(' :: rest =>
      let (inside, later) := takeOpened .sum [] rest
      let marks ← expand fuel .sum false inside
      let text := Mark.joined [' '] marks
      match Arithmetic.evaluate (← get).valueOf text with
      | .ok (value, assigned) =>
        assigned.reverse.forM fun (name, value) =>
          Builtin.setVariable name (Decimal.ofInt value).toList
        return (marksOf quoted (Decimal.ofInt value).toList, later)
      | .error (.number word) => throw (.ofString "Illegal number: " ++ word)
      | .error (.sum fault) =>
        throw (.ofString ("arithmetic expression: " ++ fault ++ ": \"") ++ text ++ ['"'])
    | '(' :: rest =>
      let (inside, later) := takeOpened .paren [] rest
      let text ← substitute fuel (← get).startLine inside
      return (marksOf quoted text, later)
    | '\x7b' :: rest =>
      let (inside, later) := takeOpened .brace context.outer rest
      let marks ← expandBraced fuel context inside
      return (marks, later)
    | raw =>
      match nameAt false raw with
      | [] => return ([if quoted then .quoted '$' else .plain '$'], raw)
      | name =>
        let state ← get
        needs state name
        return (parameterMarks state quoted name id, raw.drop name.length)

/-- The marks of a parameter in braces, with what is to be done to it. -/
def expandBraced (fuel : Nat) (context : Context) (inside : Text) : Effect (List Mark) := do
  match fuel with
  | 0 => return []
  | fuel + 1 =>
    let quoted := context.isQuoted
    let state ← get
    let measured := inside.tail
    if inside.head? = some '#' && !measured.isEmpty && nameAt true measured = measured then
      needs state measured
      return marksOf quoted (Decimal.ofNat ((value? state measured).getD []).length).toList
    let name := nameAt true inside
    if name.isEmpty then throw (.ofString "Bad substitution")
    let rest := inside.drop name.length
    -- A colon makes an empty value count as none.
    let colon := rest.head? = some ':'
    let value := (value? state name).filter fun value => !(colon && value.isEmpty)
    let same := parameterMarks state quoted name id
    let word (raw : Text) : Effect (List Mark) := do
      let marks ← expand fuel context.nested true raw
      return if quoted then marks else softened marks
    let without (cut : List Mark → Text → Text) (raw : Text) : Effect (List Mark) := do
      needs state name
      let pattern ← expand fuel .bare true raw
      return parameterMarks (← get) quoted name (cut pattern)
    match if colon then rest.tail else rest with
    | '-' :: raw => if value.isSome then return same else word raw
    | '+' :: raw => if value.isSome then word raw else return []
    | '=' :: raw =>
      if value.isSome then return same
      let marks ← expand fuel context.nested true raw
      Builtin.setVariable name (joined (← get) marks)
      return marksOf quoted (((← get).valueOf name).getD [])
    | '?' :: raw =>
      if value.isSome then return same
      let text := joined (← get) (← expand fuel context.nested true raw)
      let usual := if colon then "parameter not set or null" else "parameter not set"
      throw (name ++ [':', ' '] ++ if text.isEmpty then .ofString usual else text)
    | operation =>
      if colon then throw (.ofString "Bad substitution")
      match operation with
      | [] =>
        needs state name
        return same
      | '%' :: '%' :: raw => without (Pattern.withoutEnd · true) raw
      | '%' :: raw => without (Pattern.withoutEnd · false) raw
      | '#' :: '#' :: raw => without (Pattern.withoutFront · true) raw
      | '#' :: raw => without (Pattern.withoutFront · false) raw
      | _ => throw (.ofString "Bad substitution")

/-- What commands print, without the line ends behind it. -/
def substitute (fuel line : Nat) (script : Text) : Effect Text := do
  match fuel with
  | 0 => return []
  | fuel + 1 =>
    match Command.ofScript line script with
    | .error complaint =>
      modify fun state => { state with line := complaint.line }
      throw (.ofString complaint.text)
    | .ok command =>
      let outer ← get
      let level := outer.captures.length
      let (ending, inner) := (inside fuel false command).run
        { outer.subshell.connect 1 (some (.capture level)) with
          captures := outer.captures ++ [[]] }
      let printed := ((inner.captures[level]?).getD []).reverse.flatten
      let state := outer.after { inner with captures := inner.captures.take level }
      set { state with substituted := true }
      note ending
      return withoutLineEnds (.ofBytes printed)

end

end Launcher.Shell
