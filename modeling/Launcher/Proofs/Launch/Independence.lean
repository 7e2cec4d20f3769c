import Launcher.Proofs.Launch.Channels
import Launcher.Proofs.Launch.Refusal
import Launcher.Proofs.Reporter.Quiet
import Launcher.Proofs.Run.Alike

/-! Nothing is launched before its command was shown, and what is launched from there on does not
depend on the output. -/

namespace Launcher

namespace Quiet

variable {δ ω α : Type}

/-- Giving a result or an error is quiet. -/
theorem settle (result : Except LaunchError α) :
    Quiet (Launch.settle result : Launching δ ω α) := fun _ => rfl

/-- Logging is quiet. -/
theorem logAll (records : List LogRecord) :
    Quiet (Launch.logAll records : Launching δ ω Unit) := by
  -- A log record starts no program.
  intro state
  rw [Launch.logAll_run, Transcript.launches_map_log]

/-- Printing is quiet in a launch if it is so for the reporter. -/
theorem print {printing : Printing δ α} (quiet : Quiet printing) :
    Quiet (Launch.print printing : Launching δ ω α) := by
  -- What printing does to the reporter is all that happens.
  intro state
  rw [Launch.print_run]
  exact quiet state.1

/-- Listing scripts is quiet. -/
theorem listScripts [Host ω] (directory : Path) (extension : String) :
    Quiet (Launch.listScripts directory extension : Launching δ ω (List String)) := by
  intro state
  -- At most the number of scripts is logged.
  cases found : Host.entries state.2 directory with
  | ok entries => rw [Launch.listScripts_run found, Transcript.launches_log_cons,
      Transcript.launches_nil]
  | error cause => rw [Launch.listScripts_run_of_error found, Transcript.launches_nil]

end Quiet

namespace Launch

/-- The line of a command was written and delivered without a failure. -/
def Shown (json : Bool) (command : CommandLine) (events : Transcript) : Prop :=
  Reporter.delivery (Reporter.progressStream json) [Reporter.commandLine command] <:+: events

/-- Before each launch, the line of its command was written and delivered without a failure. -/
def LaunchesBehindCommand (json : Bool) (events : Transcript) : Prop :=
  ∀ before command child after, events = before ++ .launch command child :: after →
    Shown json command before

/-- Where nothing is launched, nothing is launched too early. -/
theorem LaunchesBehindCommand.of_quiet {json : Bool} {events : Transcript}
    (quiet : events.launches = []) : LaunchesBehindCommand json events := by
  rintro before command child after rfl
  -- A launch anywhere would be one of the launches.
  simp at quiet

/-- What comes behind the line of a command may launch that command. -/
theorem LaunchesBehindCommand.of_shown {json : Bool} {command : CommandLine}
    {start later : Transcript} (quiet : start.launches = []) (shown : Shown json command start)
    (only : ∀ launch ∈ later.launches, launch.1 = command) :
    LaunchesBehindCommand json (start ++ later) := by
  intro before launched child after split
  -- The launch is one of those behind the start, so it is of the command that was shown.
  have isLaunch : (launched, child) ∈ (start ++ later).launches := by simp [split]
  rw [Transcript.launches_append, quiet, List.nil_append] at isLaunch
  obtain rfl : launched = command := only _ isLaunch
  rcases List.append_eq_append_iff.mp split with ⟨between, rfl, rest⟩ | ⟨between, startSplit, rest⟩
  · exact shown.trans (List.prefix_append _ _).isInfix
  · -- The start has no launch, so it does not reach any further than what comes before.
    cases between with
    | nil =>
      rw [List.append_nil] at startSplit
      exact startSplit ▸ shown
    | cons event more =>
      rw [List.cons_append, List.cons.injEq] at rest
      simp [startSplit, ← rest.1] at quiet

section Showing

variable {δ ω α β : Type}

/-- What is quiet adds no launch to those of what it comes behind. -/
theorem launches_perform_bind (action : Action (Reporter δ × ω) α) {next : α → Launching δ ω β}
    (quiet : ∀ value, Quiet (next value)) (state : Reporter δ × ω) :
    ((perform action >>= next).run.run state).events.launches =
      (action.run state).events.launches := by
  -- Nothing behind the action starts a program.
  rw [perform_bind_run, Transcript.launches_append, quiet, List.append_nil]

variable [Sink δ]

/-- Logs, shows a command, and goes on if that did not fail. -/
def showing (records : List LogRecord) (command : CommandLine) (further : Launching δ ω α) :
    Launching δ ω α := do
  logAll records
  print (Reporter.command command)
  further

/-- What comes behind a launch that shows its command is what the launch goes on with. -/
theorem showing_bind (records : List LogRecord) (command : CommandLine)
    (further : Launching δ ω α) (next : α → Launching δ ω β) :
    showing records command further >>= next = showing records command (further >>= next) := by
  -- Attempts in a row may be grouped from the end.
  simp only [showing, Action.attempt_bind_assoc]

variable {records : List LogRecord} {command : CommandLine} {further : Launching δ ω α}
  {start : Reporter δ × ω}

/-- Behind a command that was shown, the launch goes on. -/
theorem showing_run_of_ok
    (shown : ((Reporter.command command).run.run start.1).value = .ok ()) :
    let begun := records.map .log ++
      Reporter.delivery (Reporter.progressStream start.1.json) [Reporter.commandLine command]
    let rest := further.run.run (((Reporter.command command).run.run start.1).state, start.2)
    (showing records command further).run.run start =
      ⟨rest.value, begun ++ rest.events, rest.state⟩ := by
  intro begun rest
  -- A delivery that succeeds leaves just the events of a delivery.
  have delivered : ((Reporter.command command).run.run start.1).events =
      Reporter.delivery (Reporter.progressStream start.1.json) [Reporter.commandLine command] := by
    rw [Reporter.command_run] at shown ⊢
    exact Reporter.events_deliver shown
  have printed : ((print (Reporter.command command) : Launching δ ω Unit).run.run start).value =
      .ok () := by
    simp only [print_run, shown]
    rfl
  rw [showing, Action.run_bind_of_ok (congrArg Step.value (logAll_run records start)), logAll_run]
  simp only [Action.run_bind_of_ok printed, print_run, delivered]
  simp only [begun, rest, List.append_assoc]

/-- A command that cannot be shown ends the launch. -/
theorem showing_run_of_error {cause : Cause}
    (fails : ((Reporter.command command).run.run start.1).value = .error cause) :
    let printed := (Reporter.command command).run.run start.1
    (showing records command further).run.run start =
      ⟨.error (.output cause), records.map .log ++ printed.events, (printed.state, start.2)⟩ := by
  intro printed
  -- The failure to print ends the launch behind what was logged.
  have failed : ((print (Reporter.command command) : Launching δ ω Unit).run.run start).value =
      .error (.output cause) := by
    simp only [print_run, fails]
    rfl
  rw [showing, Action.run_bind_of_ok (congrArg Step.value (logAll_run records start)), logAll_run]
  simp only [Action.run_bind_of_error failed, print_run, printed]

/-- A command was shown exactly if showing it did not fail. -/
theorem shown_showing_iff (further : Launching δ ω α) :
    Shown start.1.json command ((showing records command further).run.run start).events ↔
      ((Reporter.command command).run.run start.1).value = .ok () := by
  cases ended : ((Reporter.command command).run.run start.1).value with
  | ok value =>
    -- A success leaves the events of a delivery behind the records.
    rw [showing_run_of_ok ended]
    refine iff_of_true ?_ rfl
    exact ⟨records.map .log, _, rfl⟩
  | error cause =>
    rw [showing_run_of_error ended]
    refine iff_of_false (fun shown => ?_) (by simp)
    -- Showing ends with a delivery that succeeds, and there was none.
    have flushed := shown.mem (List.mem_append_right _ (List.mem_singleton_self _))
    rcases List.mem_append.mp flushed with logged | printed
    · simp at logged
    · rw [Reporter.command_run] at ended printed
      exact Reporter.flush_not_mem_of_error ended _ printed

/-- Nothing is launched if the command cannot be shown. -/
theorem launches_showing_of_not_shown (further : Launching δ ω α)
    (unshown : ¬ Shown start.1.json command
      ((showing records command further).run.run start).events) :
    ((showing records command further).run.run start).events.launches = [] := by
  rw [shown_showing_iff] at unshown
  cases ended : ((Reporter.command command).run.run start.1).value with
  | ok value => exact absurd ended unshown
  | error cause =>
    -- The command cannot be shown, and the launch ends there.
    rw [showing_run_of_error ended, Transcript.launches_append, Transcript.launches_map_log,
      Quiet.command command start.1]
    rfl

/-- Everything that is launched is launched behind the command that was shown. -/
theorem launches_showing_of_shown (further : Launching δ ω α)
    (shown : ((Reporter.command command).run.run start.1).value = .ok ()) :
    let printed := (Reporter.command command).run.run start.1
    ((showing records command further).run.run start).events.launches =
      (further.run.run (printed.state, start.2)).events.launches := by
  -- Remarks and the announcement come before, and start no program.
  rw [showing_run_of_ok shown]
  simp

/-- If only the command that is shown is launched, then nothing is launched before it was shown. -/
theorem launchesBehindCommand_showing
    (only : ∀ state, ∀ launch ∈ (further.run.run state).events.launches, launch.1 = command) :
    LaunchesBehindCommand start.1.json
      ((showing records command further).run.run start).events := by
  cases ended : ((Reporter.command command).run.run start.1).value with
  | ok value =>
    -- The transcript starts with what shows the command, and only then goes on.
    rw [showing_run_of_ok ended]
    refine .of_shown (by simp) ?_ (only _)
    exact ⟨records.map .log, [], by simp⟩
  | error cause =>
    refine .of_quiet (launches_showing_of_not_shown further ?_)
    rw [shown_showing_iff, ended]
    simp

end Showing

section Running

variable {δ ω : Type} [Sink δ]

/-- Hands a report over to its summary. -/
def handing (report : Report) : Launching δ ω (Option Report) := do
  print (Reporter.summary report)
  return some report

/-- Handing over a report is quiet. -/
theorem quiet_handing (report : Report) : Quiet (handing report : Launching δ ω (Option Report)) :=
  (Quiet.print (Quiet.summary report)).bind fun _ => Quiet.pure _

variable [Host ω]

/-- A launch up to its report: its command is shown, and then run repeatedly. -/
def untilReport (positionals : List String) (invocation : Invocation) : Launching δ ω Report :=
  showing (Invocation.remarks positionals (.ok invocation)) invocation.command
    (perform (Run.repeated Reporter.observer invocation.command invocation.times))

/-- A launch comes by a report and hands it over to the summary, which is all that is left to do. -/
structure HandsOver (positionals : List String) (invocation : Invocation) (report : Report)
    (start : Reporter δ × ω) (step : Step (Reporter δ × ω) (Except LaunchError (Option Report))) :
    Prop where
  /-- The launch comes by the report. -/
  report : ((untilReport positionals invocation : Launching δ ω Report).run.run start).value =
    .ok report
  /-- Whatever report the launch comes by, it is handed over. -/
  handed : step = ((untilReport positionals invocation >>= handing :
    Launching δ ω (Option Report)).run.run start)

variable {settings : Settings} {tokens : List String} {options : Options}
  {positionals : List String} {invocation : Invocation}

/-- Tokens that ask for an invocation have it run, and its report handed over. -/
theorem harness_run_of_asks
    (asks : Invocation.Asks settings tokens options positionals invocation)
    (start : Reporter δ × ω) :
    (harness settings tokens : Launching δ ω (Option Report)).run.run start =
      (showing (Invocation.remarks positionals (.ok invocation)) invocation.command
        (perform (Run.repeated Reporter.observer invocation.command invocation.times) >>=
          handing)).run.run start := by
  rw [harness_run_of_asked asks.asked]
  simp only [carryOut, asks.built]
  -- Giving the invocation leaves no trace, so both sides go on alike.
  rfl

/-- Tokens that ask for no invocation launch nothing. -/
theorem launches_of_not_asks
    (none : ¬ ∃ options positionals invocation,
      Invocation.Asks settings tokens options positionals invocation) (start : Reporter δ × ω) :
    ((harness settings tokens : Launching δ ω (Option Report)).run.run start).events.launches =
      [] := by
  -- Where the tokens are refused, there is nothing but log records.
  have ofRefused : ∀ error, Invocation.Refused settings tokens error →
      ((harness settings tokens : Launching δ ω (Option Report)).run.run start).events.launches =
        [] := by
    intro error refused
    obtain ⟨records, told⟩ := harness_run_of_refused (δ := δ) (ω := ω) refused start
    rw [told, Transcript.launches_map_log]
  cases asked : Request.ofTokens .defaults tokens with
  | error error => exact ofRefused error (.inl asked)
  | ok request =>
    cases request with
    | listScripts =>
      rw [harness_run_of_asked asked]
      exact ((Quiet.listScripts _ _).bind fun names => (Quiet.print (Quiet.scripts names)).bind
        fun _ => Quiet.pure _) start
    | help =>
      rw [harness_run_of_asked asked]
      exact ((Quiet.print (Quiet.usage _)).bind fun _ => Quiet.pure _) start
    | launch options positionals =>
      -- Tokens that ask for a launch do not lead to a command here.
      cases built : Invocation.harness settings options positionals with
      | ok invocation => exact absurd ⟨options, positionals, invocation, asked, built⟩ none
      | error error => exact ofRefused error (.inr ⟨options, positionals, asked, built⟩)

/-- Whatever becomes of the output, a repetition launches its command for each of the children that
the machine gives. -/
theorem launches_repeated (command : CommandLine) (times : Nat) (start : Reporter δ × ω) :
    ((Run.repeated Reporter.observer command times).run start).events.launches =
      (Run.children command times start.2).map fun child => (command, child) := by
  -- The reporter is told of every round, which launches nothing of itself.
  rw [show start = (start.1, start.2) from rfl, Run.repeated_run]
  exact Run.rounds_launches Reporter.launches_hear command 0 _ start.1

/-- A launch whose command was shown launches it for each of the children that the machine gives. -/
theorem launches_of_shown (asks : Invocation.Asks settings tokens options positionals invocation)
    {start : Reporter δ × ω}
    (shown : ((Reporter.command invocation.command).run.run start.1).value = .ok ()) :
    ((harness settings tokens : Launching δ ω (Option Report)).run.run start).events.launches =
      (Run.children invocation.command invocation.times start.2).map
        fun child => (invocation.command, child) := by
  -- Only the runs start programs: not the announcement before them, nor the summary behind.
  rw [harness_run_of_asks asks, launches_showing_of_shown _ shown,
    launches_perform_bind _ quiet_handing, launches_repeated]

/-- A launch whose command was shown hands over the report on these children. -/
theorem handsOver_of_shown (asks : Invocation.Asks settings tokens options positionals invocation)
    {start : Reporter δ × ω}
    (shown : ((Reporter.command invocation.command).run.run start.1).value = .ok ()) :
    HandsOver positionals invocation
      (reportOn invocation.command invocation.times
        (Run.children invocation.command invocation.times start.2)) start
      ((harness settings tokens : Launching δ ω (Option Report)).run.run start) := by
  constructor
  · -- The repetition reports on the children that the machine gives.
    rw [untilReport, showing_run_of_ok shown]
    simp only [perform_run, Run.repeated_run, reportOn]
  · rw [harness_run_of_asks asks, untilReport, showing_bind]

/-- Reports on children that ended alike differ in nothing but the timings. -/
theorem timeless_reportOn {run others : List Child}
    (alike : run.map Child.ending = others.map Child.ending) (command : CommandLine) (times : Nat) :
    (reportOn command times run).timeless = (reportOn command times others).timeless := by
  -- A report without its times is told by how the children ended.
  simp only [reportOn, Report.timeless, Run.timeless_records alike command 0,
    Run.endedEarly_eq_of_endings alike command]

/-- A launch launches nothing before its command was shown. -/
theorem harness_launchesBehindCommand (settings : Settings) (tokens : List String)
    (start : Reporter δ × ω) :
    LaunchesBehindCommand start.1.json
      ((harness settings tokens : Launching δ ω (Option Report)).run.run start).events := by
  by_cases asks : ∃ options positionals invocation,
      Invocation.Asks settings tokens options positionals invocation
  · obtain ⟨options, positionals, invocation, asks⟩ := asks
    rw [harness_run_of_asks asks]
    refine launchesBehindCommand_showing fun state launch member => ?_
    -- The command that is shown is the one that is run.
    rw [launches_perform_bind _ quiet_handing, launches_repeated] at member
    obtain ⟨child, _, rfl⟩ := List.mem_map.mp member
    rfl
  · exact .of_quiet (launches_of_not_asks asks start)

/-- What a build does behind its command: it runs the command once and tells how that ended. -/
def buildOnce (command : CommandLine) : Launching δ ω Outcome := do
  let outcome ← perform (Run.once command).second
  logNotStarted outcome
  print (Reporter.buildResult outcome)
  return outcome

/-- A build shows its command and runs it once. -/
theorem build_eq (settings : Settings) (positionals : List String) :
    (build settings positionals : Launching δ ω Outcome) =
      let command := Invocation.build settings positionals
      showing [.builtBuild command.shellText] command (buildOnce command) := rfl

/-- Behind its command, a build launches that command once. -/
theorem launches_buildOnce (command : CommandLine) (state : Reporter δ × ω) :
    ((buildOnce command : Launching δ ω Outcome).run.run state).events.launches =
      [(command, (Host.run state.2 command).1)] := by
  -- Logging that its launch failed and printing how the build ended are both quiet.
  have remark : ∀ outcome, Quiet (logNotStarted outcome : Launching δ ω Unit) := by
    intro outcome
    cases outcome with
    | launchFailed message => exact Quiet.logAll _
    | exited code | signaled signal => exact Quiet.pure ()
  have told : ∀ outcome, Quiet (do
      logNotStarted outcome
      print (Reporter.buildResult outcome)
      return outcome : Launching δ ω Outcome) :=
    fun outcome => (remark outcome).bind fun _ =>
      (Quiet.print (Quiet.buildResult outcome)).bind fun _ => Quiet.pure _
  -- So the one run is all that starts a program.
  rw [buildOnce, launches_perform_bind _ told, Action.run_second, Run.once_run]
  exact Run.launches_launchEvents command _

/-- A build launches its command once if that was shown, only behind it, and otherwise nothing. -/
theorem build_launches_once (settings : Settings) (positionals : List String)
    (start : Reporter δ × ω) :
    let command := Invocation.build settings positionals
    let step := (build settings positionals : Launching δ ω Outcome).run.run start
    LaunchesBehindCommand start.1.json step.events ∧
      (Shown start.1.json command step.events ↔
        ((Reporter.command command).run.run start.1).value = .ok ()) ∧
      (Shown start.1.json command step.events → step.events.launched = [command]) ∧
      (¬ Shown start.1.json command step.events → step.events.launched = []) := by
  intro command step
  simp only [step, build_eq, Transcript.launched_eq_map_launches]
  refine ⟨launchesBehindCommand_showing fun state launch member => ?_, shown_showing_iff _,
    fun shown => ?_, fun unshown => ?_⟩
  · -- The one launch is of the command that was shown.
    rw [launches_buildOnce, List.mem_singleton] at member
    rw [member]
  · rw [launches_showing_of_shown _ ((shown_showing_iff _).mp shown), launches_buildOnce]
    rfl
  · rw [launches_showing_of_not_shown _ unshown]
    rfl

end Running

section Comparing

variable {δ ε ω υ : Type} [Sink δ] [Sink ε] [Host ω] [Host υ] {settings : Settings}
  {tokens : List String} {options : Options} {positionals : List String} {invocation : Invocation}

/-- Two launches for the same tokens, in whatever modes and over whatever sinks, that both showed
their command and whose children ended alike, launch it equally often, as often as the outcomes
allow, and hand over equal reports up to the timings. -/
theorem same_launches_of_shown
    (asks : Invocation.Asks settings tokens options positionals invocation)
    {start : Reporter δ × ω} {other : Reporter ε × υ}
    (shown : ((Reporter.command invocation.command).run.run start.1).value = .ok ())
    (shownToo : ((Reporter.command invocation.command).run.run other.1).value = .ok ()) :
    let step := (harness settings tokens : Launching δ ω (Option Report)).run.run start
    let again := (harness settings tokens : Launching ε υ (Option Report)).run.run other
    step.events.ChildrenAlike again.events →
      (∃ runs, Run.EndsAfter (Run.outcomeAt invocation.command start.2) invocation.times runs ∧
        step.events.launched = List.replicate runs invocation.command ∧
        again.events.launched = List.replicate runs invocation.command) ∧
      ∃ report another, HandsOver positionals invocation report start step ∧
        HandsOver positionals invocation another other again ∧
        report.timeless = another.timeless := by
  intro step again alike
  -- Both launch their command for each of their children, so only the children are compared.
  have launches := launches_of_shown asks shown
  have launchesToo := launches_of_shown asks shownToo
  have endings := Run.endings_of_childrenAlike alike launches launchesToo
  refine ⟨⟨_, Run.endsAfter_children _ _ _, ?_, ?_⟩, _, _, handsOver_of_shown asks shown,
    handsOver_of_shown asks shownToo, timeless_reportOn endings _ _⟩
  · rw [Transcript.launched_eq_map_launches, launches, List.map_map]
    exact List.map_const'
  · -- Where the children end alike, there are as many of them.
    have long := congrArg List.length endings
    rw [List.length_map, List.length_map] at long
    rw [Transcript.launched_eq_map_launches, launchesToo, List.map_map, long]
    exact List.map_const'

/-- A launch of the harness, in whatever mode and over whatever sinks, launches its command only
behind the line that shows it, delivered without a failure, and nothing if showing it fails. From
there on the output does not count: two launches for the same tokens that both showed their command
and whose children end alike launch it equally often and hand over equal reports up to the timings.
A build likewise launches its command once if it was shown, and otherwise nothing. -/
theorem launches_independent_of_output (settings : Settings) (tokens : List String)
    (start : Reporter δ × ω) (other : Reporter ε × υ) :
    let step := (harness settings tokens : Launching δ ω (Option Report)).run.run start
    let again := (harness settings tokens : Launching ε υ (Option Report)).run.run other
    LaunchesBehindCommand start.1.json step.events ∧
    ((¬ ∃ options positionals invocation,
      Invocation.Asks settings tokens options positionals invocation) →
        step.events.launched = []) ∧
    (∀ options positionals invocation,
      Invocation.Asks settings tokens options positionals invocation →
        (Shown start.1.json invocation.command step.events ↔
          ((Reporter.command invocation.command).run.run start.1).value = .ok ()) ∧
        (¬ Shown start.1.json invocation.command step.events → step.events.launched = []) ∧
        (Shown start.1.json invocation.command step.events →
          Shown other.1.json invocation.command again.events →
          step.events.ChildrenAlike again.events →
            (∃ runs,
              Run.EndsAfter (Run.outcomeAt invocation.command start.2) invocation.times runs ∧
              step.events.launched = List.replicate runs invocation.command ∧
              again.events.launched = List.replicate runs invocation.command) ∧
            ∃ report another, HandsOver positionals invocation report start step ∧
              HandsOver positionals invocation another other again ∧
              report.timeless = another.timeless)) ∧
    ∀ positionals,
      let command := Invocation.build settings positionals
      let built := (build settings positionals : Launching δ ω Outcome).run.run start
      LaunchesBehindCommand start.1.json built.events ∧
        (Shown start.1.json command built.events ↔
          ((Reporter.command command).run.run start.1).value = .ok ()) ∧
        (Shown start.1.json command built.events → built.events.launched = [command]) ∧
        (¬ Shown start.1.json command built.events → built.events.launched = []) := by
  intro step again
  refine ⟨harness_launchesBehindCommand settings tokens start, fun none => ?_, ?_,
    fun positionals => build_launches_once settings positionals start⟩
  · rw [Transcript.launched_eq_map_launches, launches_of_not_asks none]
    rfl
  · intro options positionals invocation asks
    refine ⟨?_, fun unshown => ?_, fun shown shownToo => ?_⟩
    · simp only [step, harness_run_of_asks asks]
      exact shown_showing_iff _
    · -- A command that is not shown ends the launch.
      simp only [step, harness_run_of_asks asks] at unshown ⊢
      rw [Transcript.launched_eq_map_launches, launches_showing_of_not_shown _ unshown]
      rfl
    · -- That a command was shown is read off from the transcript.
      simp only [step, again, harness_run_of_asks asks] at shown shownToo
      exact same_launches_of_shown asks ((shown_showing_iff _).mp shown)
        ((shown_showing_iff _).mp shownToo)

/-- Behind the command line there is no room left, and still both runs take place. -/
example :
    let machine : Rehearsal := { children := [⟨.exited 0, "noon", 5, [], []⟩] }
    let step := (harness {} ["GenMS", "alloc", "repeat=2"] :
      Launching BoundedSink Rehearsal (Option Report)).run.run
        ({ json := false, out := { room := some 190 }, err := {} }, machine)
    step.value.toOption = none ∧ step.events.launched.length = 2 := by
  decide +kernel

end Comparing

end Launch

end Launcher
