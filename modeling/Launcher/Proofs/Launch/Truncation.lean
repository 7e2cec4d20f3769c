import Launcher.Proofs.Launch.Following
import Launcher.Proofs.Reporter.Progress

/-! A launch over sinks with limited room writes no more than the start of what it writes without
limits, and fails unless it writes all of it. -/

namespace Launcher.Launch

variable {ω α : Type}

namespace Follows

open Reporter (Advances Load Prints)

/-- Printing keeps up if it prints the same over all sinks. -/
theorem print {printing : Printing BoundedSink Unit} (load : Bool → Load)
    (prints : ∀ before : Reporter BoundedSink, before.held = none →
      Prints (load before.json) before (printing.run.run before)) :
    Follows (Launch.print printing : Launching BoundedSink ω Unit) := by
  intro ideal real world start
  have first := prints ideal start.idealCalm
  have second := prints real start.calm
  rw [start.json] at second
  -- Without limits, everything is written.
  have ended := first.succeeds (start.limitless.ample _)
  have all : ∀ stream, (printing.run.run ideal).events.written stream = load ideal.json stream := by
    intro stream
    rw [first.written, first.complete ended]
  rw [print_run, print_run]
  cases result : (printing.run.run real).value with
  | ok value =>
    -- With limits, success means the same.
    have same : ∀ stream,
        (printing.run.run real).events.written stream = load ideal.json stream := by
      intro stream
      rw [second.written, second.complete result]
    refine .along ?_ (fun stream => ?_) rfl ⟨?_, ?_, ?_, ?_⟩ ?_
    · simp only [ended, result]
    · exact (same stream).trans (all stream).symm
    · simp only [first.state]
      exact start.limitless.filled _
    · simp only [first.state, second.state]
      exact start.json
    · simp only [first.state]
      exact start.idealCalm
    · simp only [second.state]
      exact start.calm
    · have whole : (printing.run.run real).events.written = load ideal.json := funext same
      simp only [whole]
      exact second.state
  | error cause =>
    refine .behind cause (by simp only [result]; rfl) (fun stream => ?_) fun ample => ?_
    · rw [second.written, all]
      exact BoundedSink.fitting_isPrefix _ _
    · -- With room for everything, the attempt would have succeeded.
      have whole : (printing.run.run ideal).events.written = load ideal.json := funext all
      have succeeded := second.succeeds (whole ▸ ample)
      rw [result] at succeeded
      cases succeeded

/-- Showing a command keeps up. -/
theorem printCommand (command : CommandLine) :
    Follows (Launch.print (Reporter.command command) : Launching BoundedSink ω Unit) :=
  print (fun json => Load.lines (Reporter.progressStream json) [Reporter.commandLine command])
    fun before _ => Reporter.prints_deliver _ _ before

/-- Delivering lines that depend on the mode alone keeps up. -/
theorem printResult {printing : Printing BoundedSink Unit} (texts : Bool → List String)
    (delivers : ∀ before : Reporter BoundedSink, before.held = none →
      printing.run.run before = (Reporter.deliver .out (texts before.json)).run.run before) :
    Follows (Launch.print printing : Launching BoundedSink ω Unit) := by
  -- With nothing held back, printing delivers its lines.
  refine print (fun json => Load.lines .out (texts json)) fun before calm => ?_
  rw [delivers before calm]
  exact Reporter.prints_deliver _ _ before

/-- Printing a report keeps up if no failure is held back. -/
theorem summary (report : Report) :
    Follows (do
      Launch.print (Reporter.summary report)
      return some report : Launching BoundedSink ω (Option Report)) := by
  -- A summary only follows where nothing is held back, and then it is delivered.
  have printed : Follows (Launch.print (Reporter.summary report) : Launching BoundedSink ω Unit) :=
    printResult (Reporter.reportLines · report) fun before calm =>
      Reporter.summary_run_of_none calm report
  exact printed.bind fun _ => pure _

/-- Behind progress that both told of, the report keeps up: what is missing is an error. -/
theorem keeps_summary {load : Load} {ideal real : Reporter BoundedSink}
    {first second : Step (Reporter BoundedSink) Unit} (start : Matches ideal real)
    (told : Advances load ideal first) (advances : Advances load real second) (report : Report)
    (world : ω) :
    let rest : Launching BoundedSink ω (Option Report) := do
      Launch.print (Reporter.summary report)
      return some report
    let later := rest.run.run (first.state, world)
    let step := rest.run.run (second.state, world)
    Keeps real ⟨later.value, first.events ++ later.events, later.state⟩
      ⟨step.value, second.events ++ step.events, step.state⟩ := by
  intro rest later step
  -- Without limits, all progress is printed, and nothing is held back.
  have quiet : first.state.held = none :=
    (told.calm (start.limitless.ample load)).trans start.idealCalm
  have alike : ∀ stream, first.events.written stream = load stream := by
    intro stream
    rw [told.written, (told.complete quiet).2]
  cases held : second.state.held with
  | none =>
    have matched : Matches first.state second.state := by
      refine ⟨fun stream => ?_, ?_, quiet, held⟩
      · rw [told.sink]
        exact (start.limitless stream).filled _
      · exact advances.json.trans (start.json.trans told.json.symm)
    have all : ∀ stream, second.events.written stream = load stream := by
      intro stream
      rw [advances.written, (advances.complete held).2]
    have left : second.state = real.filled second.events.written := by
      rw [funext all, advances.state, held, ← start.calm]
      rfl
    refine (summary report first.state second.state world matched).after (fun stream => ?_) left
    rw [all, alike]
  | some cause =>
    -- The report is not printed, and the failure that was held back ends the launch.
    have failed : step =
        ⟨.error (.output cause), [], ({ second.state with held := none }, world)⟩ :=
      summary_run_of_held held report world
    refine .behind cause (congrArg Step.value failed) (fun stream => ?_) fun ample => ?_
    · rw [failed, List.append_nil, advances.written, Transcript.written_append, alike]
      exact (BoundedSink.fitting_isPrefix _ _).trans (List.prefix_append _ _)
    · -- With room for everything, all progress would have been told of.
      rw [written_followedBy, funext alike, Reporter.ample_followedBy] at ample
      have calm := (advances.calm ample.1).trans start.calm
      rw [held] at calm
      cases calm

variable [Host ω]

/-- Listing scripts keeps up. -/
theorem listScripts (directory : Path) (extension : String) :
    Follows (Launch.listScripts directory extension :
      Launching BoundedSink ω (List String)) := by
  refine look.bind fun world => ?_
  -- Both look at the same directory, and neither result is printed here.
  cases listed : Host.entries world directory with
  | error cause => exact settle _
  | ok entries => exact (logAll _).bind fun _ => pure _

/-- A repetition with its report keeps up: what is missing of its progress is an error. -/
theorem repeated (command : CommandLine) (times : Nat) :
    Follows (do
      let report ← perform (Run.repeated Reporter.observer command times)
      Launch.print (Reporter.summary report)
      return some report : Launching BoundedSink ω (Option Report)) := by
  intro ideal real world start
  rw [perform_bind_run, perform_bind_run, Run.repeated_run, Run.repeated_run]
  -- The rounds advance on both reporters, and the summary tells of what was held back meanwhile.
  have told := Reporter.advances_rounds command 0 (Run.children command times world) ideal
  have advances := Reporter.advances_rounds command 0 (Run.children command times world) real
  rw [start.json] at advances
  exact keeps_summary start told advances _ _

/-- The harness launcher keeps up, whatever it is asked for. -/
theorem harness (settings : Settings) (tokens : List String) :
    Follows (Launch.harness settings tokens : Launching BoundedSink ω (Option Report)) := by
  -- What is asked for depends on the tokens alone.
  refine (settle _).bind fun request => ?_
  cases request with
  | listScripts =>
    refine (listScripts _ _).bind fun names => ?_
    have printed : Follows (Launch.print (Reporter.scripts names) : Launching BoundedSink ω Unit) :=
      printResult (Reporter.scriptLines · names) fun before _ => Reporter.scripts_run names before
    exact printed.bind fun _ => pure _
  | help =>
    have printed : Follows (Launch.print (Reporter.usage usageText) :
        Launching BoundedSink ω Unit) :=
      printResult (fun json => [Reporter.usageLine json usageText]) fun before _ =>
        Reporter.usage_run usageText before
    exact printed.bind fun _ => pure _
  | launch options positionals =>
    -- Everything before the runs prints with its failures at once, and the runs hold theirs back.
    refine (logAll _).bind fun _ => (settle _).bind fun invocation => ?_
    exact (printCommand _).bind fun _ => repeated _ _

/-- A single run keeps up: the launcher itself writes nothing meanwhile. -/
theorem once (command : CommandLine) :
    Follows (perform (Run.once command).second : Launching BoundedSink ω Outcome) := by
  -- The run has nothing to do with the reporter.
  refine of_aside fun world => ⟨.ok ((Host.run world command).1.outcome command.program),
    Run.launchEvents command (Host.run world command).1, (Host.run world command).2,
    Run.written_launchEvents command _, fun reporter => ?_⟩
  rw [perform_run, Action.run_second, Run.once_run]

/-- The build launcher keeps up. -/
theorem build (settings : Settings) (positionals : List String) :
    Follows (Launch.build settings positionals : Launching BoundedSink ω Outcome) := by
  refine (logAll _).bind fun _ => (printCommand _).bind fun _ => (once _).bind fun outcome => ?_
  -- Only a build that failed to launch is remarked on.
  have logged : Follows (logNotStarted outcome : Launching BoundedSink ω Unit) := by
    cases outcome with
    | launchFailed message => exact logAll _
    | exited code => exact pure ()
    | signaled signal => exact pure ()
  have printed : Follows (Launch.print (Reporter.buildResult outcome) :
      Launching BoundedSink ω Unit) :=
    printResult (fun _ => ["return state:", Reporter.outcomeLine outcome]) fun _ _ => rfl
  exact logged.bind fun _ => printed.bind fun _ => pure _

end Follows

/-- What a launch writes to sinks with limited room is the start of what it writes to sinks without
limits. If it succeeds, it is all of that; if there is room for all of that, it ends alike. -/
def TruncatesOpenly (launch : Launching BoundedSink ω α) : Prop :=
  ∀ (json : Bool) (out err : BoundedSink) (world : ω),
    let ideal := launch.run.run ({ json, out := {}, err := {} }, world)
    let step := launch.run.run ({ json, out, err }, world)
    (∀ stream, step.events.written stream <+: ideal.events.written stream) ∧
    (∀ result, step.value = .ok result →
      ∀ stream, step.events.written stream = ideal.events.written stream) ∧
    (Reporter.Ample { json, out, err } ideal.events.written → step.value = ideal.value)

/-- A launch that keeps up with itself without limits truncates openly. -/
theorem Follows.truncatesOpenly {launch : Launching BoundedSink ω α} (follows : Follows launch) :
    TruncatesOpenly launch := by
  intro json out err world ideal step
  -- Both reporters are new, and the sinks of the first are without limit.
  have start : Matches { json, out := {}, err := {} } { json, out, err } := by
    refine ⟨fun stream => ?_, rfl, rfl, rfl⟩
    cases stream <;> exact ⟨rfl, rfl⟩
  cases follows _ _ world start with
  | along value written same reporters left =>
    exact ⟨fun stream => written stream ▸ List.prefix_rfl, fun result _ => written,
      fun _ => value⟩
  | behind cause failed written short =>
    refine ⟨written, fun result ended => ?_, fun ample => absurd ample short⟩
    rw [failed] at ended
    cases ended

/-- Neither launcher ever reports success when something that it was to print was left out. -/
theorem launches_truncate_openly [Host ω] (settings : Settings)
    (tokens positionals : List String) :
    TruncatesOpenly (harness settings tokens : Launching BoundedSink ω (Option Report)) ∧
      TruncatesOpenly (build settings positionals : Launching BoundedSink ω Outcome) :=
  ⟨(Follows.harness settings tokens).truncatesOpenly,
    (Follows.build settings positionals).truncatesOpenly⟩

end Launcher.Launch
