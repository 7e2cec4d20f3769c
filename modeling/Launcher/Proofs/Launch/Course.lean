import Launcher.Proofs.Launch.Carrying
import Launcher.Proofs.Reporter.Steady

/-! The course of a launch over sinks that never fail: its result, everything that happens on the
way, and the machine that it leaves, for every kind of request. -/

namespace Launcher.Launch

variable {δ ω α β : Type} [Sink δ]

/-- The report on the runs that led to given children. -/
def reportOn (command : CommandLine) (times : Nat) (run : List Child) : Report where
  command := command
  times := times
  iterations := Run.records command 0 run
  interrupted := Run.endedEarly command run

/-- A step has a known result and known events, and leaves a known machine and a reporter that is as
steady. -/
structure Arrives (before : Reporter δ) (result : Except LaunchError α) (events : Transcript)
    (next : ω) (step : Step (Reporter δ × ω) (Except LaunchError α)) : Prop where
  /-- The result is the one foreseen. -/
  value : step.value = result
  /-- The events are those foreseen. -/
  events : step.events = events
  /-- The machine is left as foreseen. -/
  world : step.state.2 = next
  /-- The mode stays the same. -/
  json : step.state.1.json = before.json
  /-- The sinks stay steady, and nothing is held back. -/
  steady : step.state.1.Steady

/-- Over sinks that never fail, a launch has a known result and leaves a known machine, and what
happens on the way is known from the mode. -/
def Foreseen (launch : Launching δ ω α) (world : ω) (result : Except LaunchError α)
    (events : Bool → Transcript) (next : ω) : Prop :=
  ∀ before : Reporter δ, before.Steady →
    Arrives before result (events before.json) next (launch.run.run (before, world))

namespace Foreseen

variable {launch : Launching δ ω α} {further : α → Launching δ ω β} {world between last : ω}
  {events more : Bool → Transcript} {value : α}

/-- A launch behind one that is foreseen to succeed is foreseen if it is so from there. -/
theorem bind {result : Except LaunchError β}
    (first : Foreseen launch world (.ok value) events between)
    (later : Foreseen (further value) between result more last) :
    Foreseen (launch >>= further) world result (fun json => events json ++ more json) last := by
  intro before steady
  have head := first before steady
  -- The later part starts from a reporter in the same mode, and from the machine in between.
  have tail := later _ head.steady
  rw [head.json, ← head.world] at tail
  rw [Action.run_bind_of_ok head.value]
  refine ⟨tail.value, ?_, tail.world, tail.json.trans head.json, tail.steady⟩
  exact congr (congrArg (· ++ ·) head.events) tail.events

/-- Nothing comes behind a launch that is foreseen to fail. -/
theorem bind_error {error : LaunchError}
    (first : Foreseen launch world (.error error) events last) :
    Foreseen (launch >>= further) world (.error error) events last := by
  -- A launch that fails keeps the other one from starting.
  intro before steady
  have head := first before steady
  rw [Action.run_bind_of_error head.value]
  exact ⟨rfl, head.events, head.world, head.json, head.steady⟩

/-- Giving a result or an error is foreseen. -/
theorem settle (result : Except LaunchError α) (world : ω) :
    Foreseen (Launch.settle result : Launching δ ω α) world result (fun _ => []) world :=
  fun _ steady => ⟨rfl, rfl, rfl, rfl, steady⟩

/-- Giving a result is foreseen. -/
theorem pure (value : α) (world : ω) :
    Foreseen (pure value : Launching δ ω α) world (.ok value) (fun _ => []) world :=
  settle (.ok value) world

/-- What is foreseen in one way is foreseen in another way of saying the same. -/
theorem of_events (foreseen : Foreseen launch world (.ok value) events last)
    (same : ∀ json, events json = more json) : Foreseen launch world (.ok value) more last := by
  -- In either mode both descriptions of the events say the same.
  rw [← funext same]
  exact foreseen

/-- What comes behind a launch without adding to what happens is foreseen. -/
theorem bindQuiet {result : Except LaunchError β}
    (first : Foreseen launch world (.ok value) events between)
    (later : Foreseen (further value) between result (fun _ => []) last) :
    Foreseen (launch >>= further) world result events last := by
  -- No events follow, so that those of the first launch are all.
  have both := first.bind later
  simp only [List.append_nil] at both
  exact both

/-- Looking at the machine is foreseen. -/
theorem look (world : ω) :
    Foreseen (perform (Action.read Prod.snd) : Launching δ ω ω) world (.ok world) (fun _ => [])
      world :=
  fun _ steady => ⟨rfl, rfl, rfl, rfl, steady⟩

/-- Logging is foreseen. -/
theorem logAll (records : List LogRecord) (world : ω) :
    Foreseen (Launch.logAll records : Launching δ ω Unit) world (.ok ())
      (fun _ => records.map .log) world := by
  induction records with
  | nil => exact pure () world
  | cons record rest ih =>
    -- A log record leaves everything as it is.
    have one : Foreseen (ExceptT.lift (Action.log record) : Launching δ ω Unit) world (.ok ())
        (fun _ => [.log record]) world :=
      fun _ steady => ⟨rfl, rfl, rfl, rfl, steady⟩
    exact one.bind ih

/-- Printing is foreseen if it is so for the reporter. -/
theorem print {printing : Printing δ Unit} {events : Bool → Transcript}
    (prints : ∀ before : Reporter δ, before.Steady →
      Reporter.Foreseen before (.ok ()) (events before.json) (printing.run.run before))
    (world : ω) : Foreseen (Launch.print printing : Launching δ ω Unit) world (.ok ()) events
      world := by
  -- Printing on a steady reporter is foreseen, and the machine plays no part in it.
  intro before steady
  have printed := prints before steady
  rw [print_run]
  refine ⟨?_, printed.events, rfl, printed.json, printed.steady⟩
  simp only [printed.value]
  rfl

/-- Showing a command is foreseen. -/
theorem command (command : CommandLine) (world : ω) :
    Foreseen (Launch.print (Reporter.command command) : Launching δ ω Unit) world (.ok ())
      (fun json => Reporter.delivery (Reporter.progressStream json) [Reporter.commandLine command])
      world :=
  print (fun _ steady => Reporter.foreseen_command steady command) world

/-- Printing a report is foreseen. -/
theorem summary (report : Report) (world : ω) :
    Foreseen (Launch.print (Reporter.summary report) : Launching δ ω Unit) world (.ok ())
      (fun json => Reporter.delivery .out (Reporter.reportLines json report)) world :=
  print (fun _ steady => Reporter.foreseen_summary steady report) world

/-- Printing the names of scripts is foreseen. -/
theorem scripts (names : List String) (world : ω) :
    Foreseen (Launch.print (Reporter.scripts names) : Launching δ ω Unit) world (.ok ())
      (fun json => Reporter.delivery .out (Reporter.scriptLines json names)) world :=
  print (fun _ steady => Reporter.foreseen_scripts steady names) world

/-- Printing a usage line is foreseen. -/
theorem usage (text : String) (world : ω) :
    Foreseen (Launch.print (Reporter.usage text) : Launching δ ω Unit) world (.ok ())
      (fun json => Reporter.delivery .out [Reporter.usageLine json text]) world :=
  print (fun _ steady => Reporter.foreseen_usage steady text) world

variable [Host ω]

/-- A repetition is foreseen: it reports on the children that the machine gives. -/
theorem repeated (command : CommandLine) (times : Nat) (world : ω) :
    let run := Run.children command times world
    Foreseen (perform (Run.repeated Reporter.observer command times) : Launching δ ω Report) world
      (.ok (reportOn command times run)) (fun json => Reporter.roundsEvents json command 0 run)
      (Run.worldAfter command run.length world) := by
  -- The children of the run are those that the machine gives, whatever the reporter does.
  intro run before steady
  have rounds := Reporter.foreseen_rounds steady command 0 run
  rw [perform_run, Run.repeated_run]
  exact ⟨rfl, rounds.events, rfl, rounds.json, rounds.steady⟩

/-- Listing the scripts of a directory that can be read is foreseen. -/
theorem listScripts {directory : Path} {extension : String} {world : ω}
    {entries : List DirectoryEntry} (read : Host.entries world directory = .ok entries) :
    let names := Catalog.scripts extension entries
    Foreseen (Launch.listScripts directory extension : Launching δ ω (List String)) world
      (.ok names) (fun _ => [.log (.listedScripts directory.text names.length)]) world := by
  -- The directory is looked at, the number of scripts is logged, and the names are the result.
  intro names
  refine (look world).bind ?_
  rw [read]
  exact (logAll [.listedScripts directory.text names.length] world).bind (pure names world)

/-- A directory that cannot be read is foreseen to be complained about. -/
theorem listScripts_error {directory : Path} {extension : String} {world : ω} {cause : Cause}
    (unread : Host.entries world directory = .error cause) :
    Foreseen (Launch.listScripts directory extension : Launching δ ω (List String)) world
      (.error (.scriptsDirectory directory cause)) (fun _ => []) world := by
  -- The directory is looked at, and nothing follows its failure.
  refine (look world).bind ?_
  rw [unread]
  exact settle _ world

end Foreseen

variable [Host ω] {settings : Settings} {tokens : List String} {world : ω}

/-- What happens when scripts are listed. -/
def listingEvents (directory : Path) (names : List String) (json : Bool) : Transcript :=
  .log (.listedScripts directory.text names.length) ::
    Reporter.delivery .out (Reporter.scriptLines json names)

/-- What happens before the report of a repetition is printed. -/
def runningEvents (positionals : List String) (invocation : Invocation) (run : List Child)
    (json : Bool) : Transcript :=
  (Invocation.remarks positionals (.ok invocation)).map .log ++
    (Reporter.delivery (Reporter.progressStream json) [Reporter.commandLine invocation.command] ++
      Reporter.roundsEvents json invocation.command 0 run)

/-- The courses that a launch can take over sinks that never fail: the result, what happens in
either mode, and the machine that is left. -/
inductive Course (settings : Settings) (tokens : List String) (world : ω) :
    Except LaunchError (Option Report) → (Bool → Transcript) → ω → Prop where
  /-- The tokens make no sense. -/
  | refused {error : LaunchError} (asked : Request.ofTokens .defaults tokens = .error error) :
    Course settings tokens world (.error error) (fun _ => []) world
  /-- The scripts cannot be listed. -/
  | unread {cause : Cause} (asked : Request.ofTokens .defaults tokens = .ok .listScripts)
    (found : Host.entries world settings.scriptsDir = .error cause) :
    Course settings tokens world (.error (.scriptsDirectory settings.scriptsDir cause))
      (fun _ => []) world
  /-- The scripts are listed. -/
  | listed {entries : List DirectoryEntry}
    (asked : Request.ofTokens .defaults tokens = .ok .listScripts)
    (found : Host.entries world settings.scriptsDir = .ok entries) :
    Course settings tokens world (.ok none)
      (listingEvents settings.scriptsDir (Catalog.scripts settings.scriptExtension entries)) world
  /-- The usage line is shown. -/
  | helped (asked : Request.ofTokens .defaults tokens = .ok .help) :
    Course settings tokens world (.ok none)
      (fun json => Reporter.delivery .out [Reporter.usageLine json usageText]) world
  /-- The arguments make up no command. -/
  | unbuilt {options : Options} {positionals : List String} {error : LaunchError}
    (asked : Request.ofTokens .defaults tokens = .ok (.launch options positionals))
    (built : Invocation.harness settings options positionals = .error error) :
    Course settings tokens world (.error error)
      (fun _ => (Invocation.remarks positionals (.error error)).map .log) world
  /-- The command is run, and its runs are reported on. -/
  | launched {options : Options} {positionals : List String} {invocation : Invocation}
    {run : List Child} {report : Report}
    (asked : Request.ofTokens .defaults tokens = .ok (.launch options positionals))
    (built : Invocation.harness settings options positionals = .ok invocation)
    (ran : run = Run.children invocation.command invocation.times world)
    (told : report = reportOn invocation.command invocation.times run) :
    Course settings tokens world (.ok (some report))
      (fun json => runningEvents positionals invocation run json ++
        Reporter.delivery .out (Reporter.reportLines json report))
      (Run.worldAfter invocation.command run.length world)

/-- Tokens that make sense have carried out what they ask for. -/
theorem Foreseen.of_asked {request : Request} {result : Except LaunchError (Option Report)}
    {events : Bool → Transcript} {next : ω}
    (asked : Request.ofTokens .defaults tokens = .ok request)
    (carried : Foreseen (carryOut settings request : Launching δ ω (Option Report)) world result
      events next) :
    Foreseen (harness settings tokens : Launching δ ω (Option Report)) world result events
      next := by
  -- The tokens are read without any event, and then carried out.
  rw [harness_eq, asked]
  exact (Foreseen.settle (.ok request) world).bind carried

/-- Tokens that make up a command have it run, and its runs reported on. -/
theorem Foreseen.of_built (δ : Type) [Sink δ] {options : Options} {positionals : List String}
    {invocation : Invocation}
    (asked : Request.ofTokens .defaults tokens = .ok (.launch options positionals))
    (built : Invocation.harness settings options positionals = .ok invocation) (world : ω) :
    let run := Run.children invocation.command invocation.times world
    let report := reportOn invocation.command invocation.times run
    Foreseen (harness settings tokens : Launching δ ω (Option Report)) world (.ok (some report))
      (fun json => runningEvents positionals invocation run json ++
        Reporter.delivery .out (Reporter.reportLines json report))
      (Run.worldAfter invocation.command run.length world) := by
  intro run report
  refine .of_asked asked ?_
  simp only [carryOut, built]
  -- The launch in its five steps: the remarks, the command that was built, its announcement, the
  -- runs and their summary.
  refine .of_events ((Foreseen.logAll _ world).bind ((Foreseen.settle (.ok _) world).bind
    ((Foreseen.command _ world).bind ((Foreseen.repeated _ _ world).bind
      ((Foreseen.summary _ _).bindQuiet (.pure _ _)))))) fun json => ?_
  simp [runningEvents, report, run]

/-- Over sinks that never fail, every launch takes one of the courses. -/
theorem exists_course (δ : Type) [Sink δ] (settings : Settings) (tokens : List String) (world : ω) :
    ∃ result events next, Course settings tokens world result events next ∧
      Foreseen (harness settings tokens : Launching δ ω (Option Report)) world result events
        next := by
  -- The tokens decide what is asked for, and only then the machine and the arguments count.
  cases asked : Request.ofTokens .defaults tokens with
  | error error =>
    refine ⟨_, _, _, .refused asked, ?_⟩
    rw [harness_eq, asked]
    exact (Foreseen.settle (.error error) world).bind_error
  | ok request =>
    cases request with
    | listScripts =>
      cases found : Host.entries world settings.scriptsDir with
      | error cause =>
        exact ⟨_, _, _, .unread asked found,
          .of_asked asked (Foreseen.listScripts_error found).bind_error⟩
      | ok entries =>
        refine ⟨_, _, _, .listed asked found, .of_asked asked ?_⟩
        exact (Foreseen.listScripts found).bind
          ((Foreseen.scripts _ world).bindQuiet (.pure none world))
    | help =>
      exact ⟨_, _, _, .helped asked, .of_asked asked
        ((Foreseen.usage usageText world).bindQuiet (.pure none world))⟩
    | launch options positionals =>
      cases built : Invocation.harness settings options positionals with
      | error error =>
        -- What is remarked on the arguments is logged before the error ends the launch.
        refine ⟨_, _, _, .unbuilt asked built, .of_asked asked ?_⟩
        simp only [carryOut, built]
        exact (Foreseen.logAll _ world).bindQuiet (Foreseen.settle (.error error) world).bind_error
      | ok invocation =>
        exact ⟨_, _, _, .launched asked built rfl rfl, .of_built δ asked built world⟩

end Launcher.Launch
