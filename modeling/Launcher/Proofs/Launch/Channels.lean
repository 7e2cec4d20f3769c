import Launcher.Proofs.Json.Line
import Launcher.Proofs.Launch.Course
import Launcher.Proofs.Report.Recovery

/-! The two streams of a launch in JSON mode: results are one line of JSON, and progress is kept
beside them. -/

namespace Launcher

namespace Reporter

/-- The names of scripts that a value lists. -/
def scriptNames? (value : Json) : Option (List String) := do
  (← (← value.member? "scripts").items?).mapM Json.text?

/-- The names of scripts are recovered from the value that lists them. -/
theorem scriptNames?_scriptsJson (names : List String) :
    scriptNames? (scriptsJson names) = some names := by
  -- The names are the texts under one key.
  have read := mapM_of_reads_back Json.str Json.text? (fun _ => rfl) names
  have listed : (scriptsJson names).member? "scripts" = some (.arr (names.map .str)) := rfl
  unfold scriptNames?
  rw [listed]
  exact read

/-- The lines on the progress of a repetition: its command, and for each run its announcement and
why its launch failed, if so. -/
def progressLines (report : Report) : List String :=
  commandLine report.command ::
    report.iterations.flatMap fun run => startedLine run.index :: failureLines run

end Reporter

namespace Launch

variable {ω : Type}

section Running

variable (positionals : List String) (invocation : Invocation) (run : List Child) (json : Bool)

/-- What is printed before the report is its progress. -/
theorem printed_runningEvents :
    (runningEvents positionals invocation run json).printed =
      (Reporter.progressLines (reportOn invocation.command invocation.times run)).flatMap
        Reporter.lineBytes := by
  -- The lines of progress are the command and those of each round, in this order.
  simp [runningEvents, Reporter.progressLines, Reporter.printed_roundsEvents, reportOn,
    List.flatMap_assoc]

/-- Before the report, the command is launched for each of the children. -/
theorem launches_runningEvents :
    (runningEvents positionals invocation run json).launches =
      run.map fun child => (invocation.command, child) := by
  -- Only rounds start programs, each its own child.
  simp [runningEvents]

/-- In JSON mode, nothing stands before the report. -/
theorem written_out_runningEvents :
    (runningEvents positionals invocation run true).written .out = [] := by
  -- In JSON mode progress and failures both go to the other stream.
  simp [runningEvents, Reporter.written_roundsEvents, Reporter.progressStream]

/-- In JSON mode, all progress stands beside the results. -/
theorem written_err_runningEvents :
    (runningEvents positionals invocation run true).written .err =
      (Reporter.progressLines (reportOn invocation.command invocation.times run)).flatMap
        Reporter.lineBytes := by
  -- In JSON mode progress and failures go to one stream, so that their order is kept.
  simp [runningEvents, Reporter.progressLines, Reporter.written_roundsEvents,
    Reporter.progressStream, reportOn, List.flatMap_assoc]

end Running

variable [Host ω] {settings : Settings} {tokens : List String} {world next : ω}
  {events : Bool → Transcript}

/-- What a value tells of the result of a launch: the report, or else the names of the scripts or
the usage line, whichever the tokens ask for. -/
def Tells (settings : Settings) (tokens : List String) (world : ω) (value : Json) :
    Option Report → Prop
  | some report =>
    (∃ options positionals,
      Request.ofTokens .defaults tokens = .ok (.launch options positionals)) ∧
    Report.ofJson? value = some report
  | none =>
    (Request.ofTokens .defaults tokens = .ok .listScripts ∧
      ∃ entries, Host.entries world settings.scriptsDir = .ok entries ∧
        Reporter.scriptNames? value = some (Catalog.scripts settings.scriptExtension entries)) ∨
    (Request.ofTokens .defaults tokens = .ok .help ∧
      value.member? "usage" = some (.str usageText))

/-- In JSON mode, a launch that succeeds ends by delivering its result as one line, and writes
nothing else to the stream of results. -/
theorem Course.delivers {result : Option Report}
    (course : Course settings tokens world (.ok result) events next) :
    ∃ before members, events true = before ++ Reporter.delivery .out [(Json.obj members).render] ∧
      before.written .out = [] ∧ (Json.obj members).member? "ok" = some (.bool true) ∧
      Tells settings tokens world (.obj members) result := by
  cases course with
  | listed asked found =>
    -- That scripts were listed is logged, which does not show on the stream.
    exact ⟨[.log _], _, rfl, rfl, rfl,
      .inl ⟨asked, _, found, Reporter.scriptNames?_scriptsJson _⟩⟩
  | helped asked => exact ⟨[], _, rfl, rfl, rfl, .inr ⟨asked, rfl⟩⟩
  | launched asked built ran told =>
    exact ⟨_, _, rfl, written_out_runningEvents _ _ _, rfl, ⟨_, _, asked⟩,
      Report.ofJson?_toJson _⟩

/-- A launch that fails only logs. -/
theorem Course.only_logs {error : LaunchError}
    (course : Course settings tokens world (.error error) events next) (json : Bool) :
    ∃ records : List LogRecord, events json = records.map .log := by
  -- A course that ends with an error does so before anything is printed.
  cases course with
  | refused asked | unread asked found => exact ⟨[], rfl⟩
  | unbuilt asked built => exact ⟨_, rfl⟩

/-- In JSON mode, a launch that reports on runs leaves their progress beside the report. -/
theorem Course.progress {report : Report}
    (course : Course settings tokens world (.ok (some report)) events next) :
    ∃ run : List Child, (events true).launches = run.map (fun child => (report.command, child)) ∧
      report.iterations = Run.records report.command 0 run ∧
      (events true).written .err = (Reporter.progressLines report).flatMap Reporter.lineBytes := by
  cases course with
  | launched asked built ran told =>
    -- The report is the one on the children of the course.
    subst told
    refine ⟨_, ?_, rfl, ?_⟩
    · simp [launches_runningEvents, reportOn]
    · simp [written_err_runningEvents]

/-- In JSON mode, a launch that reports on no runs leaves nothing beside its result. -/
theorem Course.silent (course : Course settings tokens world (.ok none) events next) :
    (events true).written .err = [] := by
  -- A listing and a usage line are results, and nothing is told beside them.
  cases course with
  | listed asked found => simp [listingEvents]
  | helped asked => simp

/-- Over sinks that never fail, a launch in JSON mode writes nothing if it fails. If it succeeds,
its results are one line that tells of the result; beside them stands the progress of the runs that
it reports on, and nothing if it reports on none. -/
theorem json_mode_keeps_results_apart {δ : Type} [Sink δ] (settings : Settings)
    (tokens : List String) (world : ω) {out err : δ} (steadyOut : Sink.Steady out)
    (steadyErr : Sink.Steady err) :
    let step := (harness settings tokens : Launching δ ω (Option Report)).run.run
      ({ json := true, out, err }, world)
    (∀ error, step.value = .error error → ∀ stream, step.events.written stream = []) ∧
    ∀ result, step.value = .ok result →
      (∃ value, Json.IsLine value (step.events.written .out) ∧
        value.member? "ok" = some (.bool true) ∧ Tells settings tokens world value result) ∧
      (result = none → step.events.written .err = []) ∧
      ∀ report, result = some report →
        ∃ run : List Child,
          step.events.launches = run.map (fun child => (report.command, child)) ∧
          report.iterations = Run.records report.command 0 run ∧
          step.events.written .err =
            (Reporter.progressLines report).flatMap Reporter.lineBytes := by
  intro step
  -- The launch takes one of the courses, and everything is read off from that.
  obtain ⟨ended, events, next, course, foreseen⟩ := exists_course δ settings tokens world
  have arrives := foreseen _ (.ofSinks true steadyOut steadyErr)
  have value : step.value = ended := arrives.value
  have happened : step.events = events true := arrives.events
  rw [value, happened]
  refine ⟨fun error failed stream => ?_, fun result succeeded => ⟨?_, ?_, ?_⟩⟩
  · -- Where a launch fails, there are log records only.
    obtain ⟨records, logged⟩ := (failed ▸ course).only_logs true
    rw [logged, Transcript.written_map_log]
  · -- Where it succeeds, the line that is delivered in the end is the only one.
    obtain ⟨before, members, delivered, nothing, ok, tells⟩ := (succeeded ▸ course).delivers
    refine ⟨.obj members, ?_, ok, tells⟩
    have line : (events true).written .out = Reporter.lineBytes (Json.obj members).render := by
      simp [delivered, nothing]
    rw [line]
    exact Json.isLine_render members
  · rintro rfl
    exact (succeeded ▸ course).silent
  · rintro report rfl
    exact (succeeded ▸ course).progress

/-- A machine on which every directory has the same entries, and whose children are settled. -/
structure Rehearsal where
  /-- The entries of every directory. -/
  entries : List DirectoryEntry := []
  /-- The children to come. -/
  children : List Child := []

/-- Once its children are used up, there is no program to start any more. -/
instance : Host Rehearsal where
  entries machine _ := .ok machine.entries
  run machine _ :=
    match machine.children with
    | [] => (⟨.notStarted .notFound, "", 0, [], []⟩, machine)
    | child :: rest => (child, { machine with children := rest })

/-- A result of which something is known is there. -/
theorem exists_ok_of_known {ε α β : Type} {result : Except ε α} {view : α → β} {fact : β}
    (known : result.toOption.map view = some fact) :
    ∃ value, result = .ok value ∧ view value = fact := by
  -- Something is known of a value only where there is one.
  cases result with
  | error error => simp [Except.toOption] at known
  | ok value => exact ⟨value, rfl, Option.some_inj.mp known⟩

/-- Two runs, the first of which gives no exit code, and the second of which cannot be started: all
that is told of them stands beside the report. -/
theorem json_mode_keeps_two_runs_apart :
    let status := "stopped (not terminated) by signal: 19 (SIGSTOP)"
    let machine : Rehearsal := { children := [⟨.withoutCode status, "noon", 5, utf8 "noise", []⟩] }
    let told := ["iteration #0",
      "error: iteration #0: child ended without an exit code: " ++ status, "iteration #1",
      "error: iteration #1: failed to launch 'java': No such file or directory (os error 2)"]
    let step := (harness {} ["GenMS", "alloc", "repeat=2"] :
      Launching BoundedSink Rehearsal (Option Report)).run.run
        ({ json := true, out := {}, err := {} }, machine)
    Sink.Steady ({} : BoundedSink) ∧ ∃ report value, step.value = .ok (some report) ∧
      report.exitCodes = [-1, -1] ∧ Json.IsLine value (step.events.written .out) ∧
      Report.ofJson? value = some report ∧
      step.events.written .err = (Reporter.progressLines report).flatMap Reporter.lineBytes ∧
      (Reporter.progressLines report).drop 1 = told := by
  intro status machine told step
  have steady := BoundedSink.steady_unlimited
  -- The codes and the lines of this one run are computed; what is said of the streams is the
  -- theorem.
  have known : step.value.toOption.map
      (Option.map fun report => (report.exitCodes, (Reporter.progressLines report).drop 1)) =
        some (some ([-1, -1], told)) := by
    decide +kernel
  obtain ⟨result, ended, facts⟩ := exists_ok_of_known known
  obtain ⟨report, rfl, seen⟩ := Option.map_eq_some_iff.mp facts
  obtain ⟨codes, lines⟩ := Prod.mk.inj seen
  have apart :=
    json_mode_keeps_results_apart {} ["GenMS", "alloc", "repeat=2"] machine steady steady
  obtain ⟨⟨value, line, -, tells⟩, -, progress⟩ := apart.2 _ ended
  obtain ⟨run, -, -, beside⟩ := progress report rfl
  exact ⟨steady, report, value, ended, codes, line, tells.2, beside, lines⟩

end Launch

end Launcher
