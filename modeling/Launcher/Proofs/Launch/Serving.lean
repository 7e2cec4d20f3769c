import Launcher.Proofs.Launch.Carrying
import Launcher.Proofs.Reporter.Steady

/-! A stream whose sink never fails takes all that it is offered during a launch, whatever becomes
of the other stream. -/

namespace Launcher

namespace Transcript

/-- A stream took all that it was offered. -/
def Took (transcript : Transcript) (stream : Stream) : Prop :=
  ∀ taken cause, .write stream taken (some cause) ∉ transcript

/-- Where nothing is offered, nothing is left over. -/
@[simp] theorem took_nil (stream : Stream) : Took [] stream := by
  -- There is no write in an empty list.
  simp [Took]

/-- All was taken in each of two parts. -/
@[simp] theorem took_append_iff {before after : Transcript} {stream : Stream} :
    Took (before ++ after) stream ↔ before.Took stream ∧ after.Took stream := by
  -- A write is in one of the two parts.
  simp [Took, not_or, forall_and]

/-- Bytes that a stream took without a failure are all that it was offered. -/
@[simp] theorem took_write_cons {other stream : Stream} {taken : Bytes} {failure : Option Cause}
    {rest : Transcript} :
    Took (.write other taken failure :: rest) stream ↔
      (other = stream → failure = none) ∧ rest.Took stream := by
  -- The first event is a write, which fails or not.
  cases failure <;> simp [Took, not_or, forall_and, eq_comm]

/-- Asking for delivery offers nothing. -/
@[simp] theorem took_flush_cons {other stream : Stream} {failure : Option Cause}
    {rest : Transcript} : Took (.flush other failure :: rest) stream ↔ rest.Took stream := by
  -- A flush is no write.
  simp [Took]

/-- A launch offers nothing of the launcher. -/
@[simp] theorem took_launch_cons {command : CommandLine} {child : Child} {rest : Transcript}
    {stream : Stream} : Took (.launch command child :: rest) stream ↔ rest.Took stream := by
  -- A launch is no write.
  simp [Took]

/-- Logging offers nothing. -/
@[simp] theorem took_log_cons {record : LogRecord} {rest : Transcript} {stream : Stream} :
    Took (.log record :: rest) stream ↔ rest.Took stream := by
  -- A log record is no write.
  simp [Took]

/-- Log records offer nothing. -/
@[simp] theorem took_map_log (records : List LogRecord) (stream : Stream) :
    Took (records.map .log) stream := by
  -- None of the records is a write.
  simp [Took]

end Transcript

/-- A run offers nothing of the launcher. -/
@[simp] theorem Run.took_launchEvents (command : CommandLine) (child : Child) (stream : Stream) :
    (launchEvents command child).Took stream := by
  -- Neither the launch nor a remark offers anything to a stream.
  rw [launchEvents]
  cases child.ending <;> simp

/-- What is logged behind a run offers nothing. -/
@[simp] theorem Run.took_endingRemarks (command : CommandLine) (index : Nat) (child : Child)
    (stream : Stream) : (endingRemarks command index child).Took stream := by
  -- There is at most a log record.
  rw [endingRemarks]
  split <;> simp

variable {σ ε δ α β : Type} {stream : Stream}

/-- The sink behind a stream is the one that was put there last. -/
theorem Reporter.sink_withSink (reporter : Reporter δ) (stream other : Stream) (sink : δ) :
    (reporter.withSink other sink).sink stream =
      if other = stream then sink else reporter.sink stream := by
  -- Each of the two streams has its own sink.
  cases stream <;> cases other <;> rfl

variable [Sink δ]

/-- A stream took all that it was offered, and its sink is left as one that never fails. -/
structure Reporter.Served (stream : Stream) (reporter : Reporter δ) (events : Transcript) :
    Prop where
  /-- The sink never fails from there on. -/
  steady : Sink.Steady (reporter.sink stream)
  /-- The stream took all. -/
  took : events.Took stream

/-- From every state whose reporter has a sink behind a stream that never fails, an attempt leaves
the stream served. -/
def Serves (view : σ → Reporter δ) (stream : Stream) (attempt : ExceptT ε (Action σ) α) : Prop :=
  ∀ start, Sink.Steady ((view start).sink stream) →
    let step := attempt.run.run start
    Reporter.Served stream (view step.state) step.events

namespace Serves

/-- Attempts in a row serve a stream if each of them does. -/
theorem bind {view : σ → Reporter δ} {attempt : ExceptT ε (Action σ) α}
    {next : α → ExceptT ε (Action σ) β} (first : Serves view stream attempt)
    (later : ∀ value, Serves view stream (next value)) :
    Serves view stream (attempt >>= next) := by
  intro start steady
  have head := first start steady
  cases ended : (attempt.run.run start).value with
  | ok value =>
    -- The later attempt starts where the first one left the sink.
    have tail := later value _ head.steady
    rw [Action.run_bind_of_ok ended]
    exact ⟨tail.steady, Transcript.took_append_iff.mpr ⟨head.took, tail.took⟩⟩
  | error cause =>
    rw [Action.run_bind_of_error ended]
    exact ⟨head.steady, head.took⟩

/-- Giving a value serves every stream. -/
theorem pure {view : σ → Reporter δ} (value : α) :
    Serves view stream (pure value : ExceptT ε (Action σ) α) :=
  fun _ steady => ⟨steady, Transcript.took_nil stream⟩

/-- An attempt that amounts from each state to one that serves a stream serves it. -/
theorem of_run {view : σ → Reporter δ} {attempt : ExceptT ε (Action σ) α}
    {other : σ → ExceptT ε (Action σ) α}
    (same : ∀ state, attempt.run.run state = (other state).run.run state)
    (serves : ∀ state, Serves view stream (other state)) : Serves view stream attempt := by
  -- In each state the attempt is one that serves.
  intro start steady
  rw [same]
  exact serves start start steady

/-- Writing a line serves every stream. -/
theorem writeLine (other : Stream) (text : String) :
    Serves id stream (Reporter.writeLine other text : Printing δ Unit) := by
  intro reporter steady
  rw [Reporter.writeLine_run]
  -- The other stream may fail, but its sink is not the one that is looked at.
  by_cases same : other = stream
  · subst same
    obtain ⟨taken, left⟩ := Sink.Steady.write steady (Reporter.lineBytes text)
    refine ⟨?_, by simpa using taken⟩
    simpa [Reporter.sink_withSink] using left
  · refine ⟨?_, by simp [same]⟩
    simpa [Reporter.sink_withSink, same] using steady

/-- Asking for delivery serves every stream. -/
theorem flush (other : Stream) :
    Serves id stream (Reporter.flush other : Printing δ Unit) := by
  intro reporter steady
  rw [Reporter.flush_run]
  refine ⟨?_, by simp⟩
  -- A flush leaves a steady sink steady, and the sink of the other stream as it is.
  by_cases same : other = stream
  · subst same
    simpa [Reporter.sink_withSink] using (Sink.Steady.flush steady).2
  · simpa [Reporter.sink_withSink, same] using steady

/-- Writing lines serves every stream. -/
theorem writeLines (other : Stream) (texts : List String) :
    Serves id stream (Reporter.writeLines other texts : Printing δ Unit) := by
  -- The lines are written one behind the other, and each of them serves.
  induction texts with
  | nil => exact pure ()
  | cons text rest ih => exact (writeLine other text).bind fun _ => ih

/-- Delivering lines serves every stream. -/
theorem deliver (other : Stream) (texts : List String) :
    Serves id stream (Reporter.deliver other texts : Printing δ Unit) :=
  (writeLines other texts).bind fun _ => flush other

/-- Printing a report serves every stream, whether or not a failure takes its place. -/
theorem summary (report : Report) :
    Serves id stream (Reporter.summary report : Printing δ Unit) := by
  intro reporter steady
  -- A failure that is held back takes the place of the report.
  cases held : reporter.held with
  | none =>
    rw [Reporter.summary_run_of_none held]
    exact deliver _ _ reporter steady
  | some cause =>
    rw [Reporter.summary_run_of_some held]
    refine ⟨?_, Transcript.took_nil stream⟩
    cases stream <;> exact steady

end Serves

namespace Reporter

/-- Holding a failure back serves a stream if the attempt does. -/
theorem served_holding {attempt : Printing δ Unit} (serves : Serves id stream attempt)
    {reporter : Reporter δ} (steady : Sink.Steady (reporter.sink stream)) :
    let step := (holding attempt).run reporter
    Served stream step.state step.events := by
  have tried := serves reporter steady
  -- All that may come behind the attempt is a record of its failure.
  have remark : ∀ held result, (heldRemarks held result).Took stream := by
    intro held result
    cases result <;> cases held <;> simp [heldRemarks]
  rw [holding_run]
  refine ⟨?_, Transcript.took_append_iff.mpr ⟨tried.took, remark _ _⟩⟩
  cases stream <;> exact tried.steady

/-- Announcing a run serves every stream. -/
theorem served_started (index : Nat) {reporter : Reporter δ}
    (steady : Sink.Steady (reporter.sink stream)) :
    let step := (started index).run reporter
    Served stream step.state step.events := by
  -- The announcement is one line, delivered with its failure held back.
  rw [started_run]
  exact served_holding (.deliver _ _) steady

/-- Telling of the end of a run serves every stream. -/
theorem served_finished (iteration : Iteration) {reporter : Reporter δ}
    (steady : Sink.Steady (reporter.sink stream)) :
    let step := (finished iteration).run reporter
    Served stream step.state step.events := by
  unfold finished
  -- Only a failed launch is told of.
  cases iteration.outcome with
  | launchFailed message => exact served_holding (.writeLine _ _) steady
  | exited code | signaled signal => exact ⟨steady, Transcript.took_nil stream⟩

/-- The rounds of a repetition serve every stream. -/
theorem served_rounds (command : CommandLine) (index : Nat) (run : List Child)
    {reporter : Reporter δ} (steady : Sink.Steady (reporter.sink stream)) :
    let step := (Run.rounds observer command index run).run reporter
    Served stream step.state step.events := by
  induction run generalizing index reporter with
  | nil => exact ⟨steady, Transcript.took_nil stream⟩
  | cons child rest ih =>
    have told := served_started index steady
    have heard := served_finished (Run.record command index child) told.steady
    have later := ih (index + 1) heard.steady
    rw [Run.rounds, Action.run_bind]
    refine ⟨later.steady, Transcript.took_append_iff.mpr ⟨?_, later.took⟩⟩
    -- Around what is told of the run, it is launched, and records are logged.
    rw [Run.round_run]
    simpa [observer] using ⟨told.took, heard.took⟩

end Reporter

namespace Launch

variable {ω : Type}

/-- Giving a result or an error serves every stream. -/
theorem serves_settle (result : Except LaunchError α) :
    Serves Prod.fst stream (settle result : Launching δ ω α) :=
  fun _ steady => ⟨steady, Transcript.took_nil stream⟩

/-- Logging serves every stream. -/
theorem serves_logAll (records : List LogRecord) :
    Serves Prod.fst stream (logAll records : Launching δ ω Unit) := by
  -- A log record leaves the reporter as it is.
  intro start steady
  rw [logAll_run]
  exact ⟨steady, Transcript.took_map_log records stream⟩

/-- Printing serves a stream in a launch if it does so for the reporter. -/
theorem serves_print {printing : Printing δ α} (serves : Serves id stream printing) :
    Serves Prod.fst stream (print printing : Launching δ ω α) := by
  -- Printing serves on the reporter, which is the part that is looked at.
  intro start steady
  have printed := serves start.1 steady
  rw [print_run]
  exact ⟨printed.steady, printed.took⟩

variable [Host ω]

/-- A repetition serves every stream. -/
theorem serves_repeated (command : CommandLine) (times : Nat) :
    Serves Prod.fst stream
      (perform (Run.repeated Reporter.observer command times) : Launching δ ω Report) := by
  -- The rounds serve, and whatever else the runs do leaves the reporter as it is.
  intro start steady
  have told := Reporter.served_rounds command 0 (Run.children command times start.2) steady
  rw [perform_run, Run.repeated_run]
  exact ⟨told.steady, told.took⟩

/-- Listing scripts serves every stream. -/
theorem serves_listScripts (directory : Path) (extension : String) :
    Serves Prod.fst stream (listScripts directory extension : Launching δ ω (List String)) := by
  -- Read or not, a directory leaves the reporter as it is.
  intro start steady
  cases found : Host.entries start.2 directory with
  | ok entries =>
    rw [listScripts_run found]
    exact ⟨steady, by simp⟩
  | error cause =>
    rw [listScripts_run_of_error found]
    exact ⟨steady, by simp⟩

/-- A launch serves every stream, whatever becomes of the other one. -/
theorem serves_harness (settings : Settings) (tokens : List String) :
    Serves Prod.fst stream (harness settings tokens : Launching δ ω (Option Report)) := by
  -- Each way through a launch is a row of steps, and each of these serves whatever came before it.
  rw [harness_eq]
  refine (serves_settle _).bind fun request => ?_
  cases request with
  | listScripts =>
    -- The scripts are listed and printed.
    exact (serves_listScripts _ _).bind fun names =>
      (serves_print (.of_run (Reporter.scripts_run names) fun _ => .deliver _ _)).bind fun _ =>
        .pure none
  | help =>
    exact (serves_print (.of_run (Reporter.usage_run usageText) fun _ => .deliver _ _)).bind
      fun _ => .pure none
  | launch options positionals =>
    -- The command is announced, run and summed up. A failure on the way ends the launch, which is
    -- part of what it means for steps in a row to serve.
    exact (serves_logAll _).bind fun _ => (serves_settle _).bind fun invocation =>
      (serves_print (.of_run (Reporter.command_run _) fun _ => .deliver _ _)).bind fun _ =>
        (serves_repeated _ _).bind fun report => (serves_print (.summary report)).bind fun _ =>
          .pure (some report)

end Launch

end Launcher
