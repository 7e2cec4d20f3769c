import Launcher.Launch
import Launcher.Proofs.Reporter.Printing
import Launcher.Proofs.Run.Rounds

/-! What the reporter does over sinks that never fail: everything that happens is known in advance,
from the mode alone. -/

namespace Launcher.Reporter

variable {δ α : Type}

/-- The mode does not depend on the sinks. -/
theorem json_withSink (reporter : Reporter δ) (stream : Stream) (sink : δ) :
    (reporter.withSink stream sink).json = reporter.json := by
  -- The mode does not depend on the sinks.
  cases stream <;> rfl

variable [Sink δ]

/-- Both sinks take everything and deliver it, and no failure is held back. -/
structure Steady (reporter : Reporter δ) : Prop where
  /-- Each sink takes everything and delivers it. -/
  sink : ∀ stream, Sink.Steady (reporter.sink stream)
  /-- No failure is held back. -/
  calm : reporter.held = none

/-- A new reporter over sinks that never fail is steady. -/
theorem Steady.ofSinks (json : Bool) {out err : δ} (steadyOut : Sink.Steady out)
    (steadyErr : Sink.Steady err) : Steady { json, out, err } := by
  -- The reporter is new, so that nothing is held back yet.
  refine ⟨fun stream => ?_, rfl⟩
  cases stream with
  | out => exact steadyOut
  | err => exact steadyErr

/-- A step has a known result and known events, and leaves a reporter that is as steady. -/
structure Foreseen (before : Reporter δ) (value : α) (events : Transcript)
    (step : Step (Reporter δ) α) : Prop where
  /-- The result is the one foreseen. -/
  value : step.value = value
  /-- The events are those foreseen. -/
  events : step.events = events
  /-- The mode stays the same. -/
  json : step.state.json = before.json
  /-- The sinks stay steady, and nothing is held back. -/
  steady : step.state.Steady

/-- A steady sink in the place of another one leaves a reporter steady. -/
theorem Steady.withSink {reporter : Reporter δ} (steady : reporter.Steady) (stream : Stream)
    {sink : δ} (fresh : Sink.Steady sink) : (reporter.withSink stream sink).Steady := by
  refine ⟨fun other => ?_, ?_⟩
  · -- The sink behind the stream is the new one, and the other one is as before.
    cases stream with
    | out =>
      cases other with
      | out => exact fresh
      | err => exact steady.sink .err
    | err =>
      cases other with
      | out => exact steady.sink .out
      | err => exact fresh
  · cases stream <;> exact steady.calm

section Attempts

variable {reporter : Reporter δ}

/-- Writing a line is foreseen. -/
theorem foreseen_writeLine (steady : reporter.Steady) (stream : Stream) (text : String) :
    Foreseen reporter (.ok ()) [.write stream (lineBytes text) none]
      ((writeLine stream text).run.run reporter) := by
  -- A steady sink takes the whole line and stays steady.
  obtain ⟨taken, left⟩ := (steady.sink stream).write (lineBytes text)
  rw [writeLine_run]
  refine ⟨?_, ?_, json_withSink _ _ _, steady.withSink stream left⟩
  · exact resultOf_eq_ok.mpr taken
  · simp only [taken, Receipt.taken_of_sound taken]

/-- Asking for delivery is foreseen. -/
theorem foreseen_flush (steady : reporter.Steady) (stream : Stream) :
    Foreseen reporter (.ok ()) [.flush stream none] ((flush stream).run.run reporter) := by
  -- A steady sink delivers what it took and stays steady.
  obtain ⟨delivered, left⟩ := (steady.sink stream).flush
  rw [flush_run]
  refine ⟨?_, ?_, json_withSink _ _ _, steady.withSink stream left⟩
  · exact resultOf_eq_ok.mpr delivered
  · simp only [delivered]

/-- An attempt behind one that is foreseen to succeed is foreseen if it is so from there. -/
theorem Foreseen.andThen {attempt next : Printing δ Unit} {events more : Transcript}
    (first : Foreseen reporter (.ok ()) events (attempt.run.run reporter))
    (later : ∀ between : Reporter δ, between.Steady → between.json = reporter.json →
      Foreseen between (.ok ()) more (next.run.run between)) :
    Foreseen reporter (.ok ()) (events ++ more) ((attempt >>= fun _ => next).run.run reporter) := by
  -- The first attempt succeeds, so that the second one starts from the steady reporter that it
  -- left.
  have second := later _ first.steady first.json
  rw [Action.run_bind_of_ok first.value]
  refine ⟨second.value, ?_, second.json.trans first.json, second.steady⟩
  simp only [first.events, second.events]

/-- Writing lines is foreseen. -/
theorem foreseen_writeLines (steady : reporter.Steady) (stream : Stream) (texts : List String) :
    Foreseen reporter (.ok ()) (writing stream texts)
      ((writeLines stream texts).run.run reporter) := by
  -- By induction on the lines: each of them leaves a steady reporter for the next.
  induction texts generalizing reporter with
  | nil => exact ⟨rfl, rfl, rfl, steady⟩
  | cons text rest ih =>
    exact (foreseen_writeLine steady stream text).andThen fun between steady _ => ih steady

/-- Delivering lines is foreseen. -/
theorem foreseen_deliver (steady : reporter.Steady) (stream : Stream) (texts : List String) :
    Foreseen reporter (.ok ()) (delivery stream texts)
      ((deliver stream texts).run.run reporter) :=
  (foreseen_writeLines steady stream texts).andThen fun _ steady _ =>
    foreseen_flush steady stream

/-- An attempt that succeeds leaves nothing to hold back. -/
theorem Foreseen.holding {attempt : Printing δ Unit} {events : Transcript}
    (foreseen : Foreseen reporter (.ok ()) events (attempt.run.run reporter)) :
    Foreseen reporter () events ((Reporter.holding attempt).run reporter) := by
  -- There is no failure to hold back.
  rw [holding_run]
  refine ⟨rfl, ?_, foreseen.json, ⟨foreseen.steady.sink, ?_⟩⟩
  · simp [heldRemarks, foreseen.value, foreseen.events]
  · simp [causeOf, foreseen.value, foreseen.steady.calm]

/-- Showing a command is foreseen. -/
theorem foreseen_command (steady : reporter.Steady) (command : CommandLine) :
    Foreseen reporter (.ok ()) (delivery (progressStream reporter.json) [commandLine command])
      ((Reporter.command command).run.run reporter) := by
  -- The announcement of a command is a single line on the stream of progress.
  rw [command_run]
  exact foreseen_deliver steady _ _

/-- Printing a report is foreseen. -/
theorem foreseen_summary (steady : reporter.Steady) (report : Report) :
    Foreseen reporter (.ok ()) (delivery .out (reportLines reporter.json report))
      ((summary report).run.run reporter) := by
  -- Nothing is held back, so that the report is delivered.
  rw [summary_run_of_none steady.calm]
  exact foreseen_deliver steady _ _

/-- Printing the names of scripts is foreseen. -/
theorem foreseen_scripts (steady : reporter.Steady) (names : List String) :
    Foreseen reporter (.ok ()) (delivery .out (scriptLines reporter.json names))
      ((scripts names).run.run reporter) := by
  -- The mode decides about the lines, and these are delivered.
  rw [scripts_run]
  exact foreseen_deliver steady _ _

/-- Printing a usage line is foreseen. -/
theorem foreseen_usage (steady : reporter.Steady) (text : String) :
    Foreseen reporter (.ok ()) (delivery .out [usageLine reporter.json text])
      ((usage text).run.run reporter) := by
  -- The mode decides about the line, and it is delivered.
  rw [usage_run]
  exact foreseen_deliver steady _ _

/-- The lines on a run that is recorded as a failed launch. -/
def failureLines (iteration : Iteration) : List String :=
  match iteration.outcome with
  | .launchFailed message => [failureLine iteration.index message]
  | .exited _ | .signaled _ => []

/-- What happens when the reporter is told of the end of a run. -/
def endEvents (iteration : Iteration) : Transcript := writing .err (failureLines iteration)

/-- Announcing a run is foreseen. -/
theorem foreseen_started (steady : reporter.Steady) (index : Nat) :
    Foreseen reporter () (delivery (progressStream reporter.json) [startedLine index])
      ((started index).run reporter) := by
  -- The announcement of a run is a single line on the stream of progress.
  rw [started_run]
  exact (foreseen_deliver steady _ _).holding

/-- Telling of the end of a run is foreseen. -/
theorem foreseen_finished (steady : reporter.Steady) (iteration : Iteration) :
    Foreseen reporter () (endEvents iteration) ((finished iteration).run reporter) := by
  unfold finished endEvents failureLines
  -- Only a failed launch is told of.
  cases iteration.outcome with
  | launchFailed message => exact (foreseen_writeLine steady _ _).holding
  | exited code => exact ⟨rfl, rfl, rfl, steady⟩
  | signaled signal => exact ⟨rfl, rfl, rfl, steady⟩

/-- What happens in a round of a repetition. -/
def roundEvents (json : Bool) (command : CommandLine) (index : Nat) (child : Child) : Transcript :=
  delivery (progressStream json) [startedLine index] ++ .log (.launching index command.program) ::
    (Run.launchEvents command child ++
      .log (.iterationFinished index (child.outcome command.program).exitCode) ::
        (endEvents (Run.record command index child) ++ Run.endingRemarks command index child))

/-- What happens in the rounds of a repetition, the first of them at an index. -/
def roundsEvents (json : Bool) (command : CommandLine) : Nat → List Child → Transcript
  | _, [] => []
  | index, child :: rest =>
    roundEvents json command index child ++ roundsEvents json command (index + 1) rest

/-- What each stream takes of the rounds of a repetition: announcements go to the stream of
progress, and what is told of the end of a run goes beside the results. -/
theorem written_roundsEvents (json : Bool) (command : CommandLine) (index : Nat)
    (run : List Child) (stream : Stream) :
    (roundsEvents json command index run).written stream =
      (Run.records command index run).flatMap fun iteration =>
        (if progressStream json = stream then lineBytes (startedLine iteration.index) else []) ++
          if .err = stream then (failureLines iteration).flatMap lineBytes else [] := by
  -- By induction on the children: each round writes the lines of its own record, and the child's
  -- own bytes are not written by the launcher.
  induction run generalizing index with
  | nil => rfl
  | cons child rest ih =>
    simp [roundsEvents, roundEvents, endEvents, Run.records, ih, Run.record]

/-- What is printed of the rounds of a repetition: the announcement of each run, and behind it what
is told of its end. -/
theorem printed_roundsEvents (json : Bool) (command : CommandLine) (index : Nat)
    (run : List Child) :
    (roundsEvents json command index run).printed =
      (Run.records command index run).flatMap fun iteration =>
        (startedLine iteration.index :: failureLines iteration).flatMap lineBytes := by
  -- By induction on the children: each round prints the lines of its own record.
  induction run generalizing index with
  | nil => rfl
  | cons child rest ih =>
    simp [roundsEvents, roundEvents, endEvents, Run.records, ih, Run.record]

/-- Each round of a repetition launches the command once, and leads to its child. -/
@[simp] theorem launches_roundsEvents (json : Bool) (command : CommandLine) (index : Nat)
    (run : List Child) :
    (roundsEvents json command index run).launches = run.map fun child => (command, child) := by
  -- By induction on the children: each round starts its own child and no other.
  induction run generalizing index with
  | nil => rfl
  | cons child rest ih => simp [roundsEvents, roundEvents, endEvents, ih]

/-- A round of a repetition is foreseen. -/
theorem foreseen_round (steady : reporter.Steady) (command : CommandLine) (index : Nat)
    (child : Child) :
    Foreseen reporter () (roundEvents reporter.json command index child)
      ((Run.round observer command index child).run reporter) := by
  have told := foreseen_started steady index
  have heard := foreseen_finished told.steady (Run.record command index child)
  -- What the child does in between does not touch the reporter.
  rw [Run.round_run]
  refine ⟨rfl, ?_, heard.json.trans told.json, heard.steady⟩
  simp only [observer, told.events, heard.events, roundEvents]

/-- The rounds of a repetition are foreseen. -/
theorem foreseen_rounds (steady : reporter.Steady) (command : CommandLine) (index : Nat)
    (run : List Child) :
    Foreseen reporter () (roundsEvents reporter.json command index run)
      ((Run.rounds observer command index run).run reporter) := by
  -- Each round leaves a steady reporter in the same mode to the later ones.
  induction run generalizing index reporter with
  | nil => exact ⟨rfl, rfl, rfl, steady⟩
  | cons child rest ih =>
    have first := foreseen_round steady command index child
    have later := ih first.steady (index + 1)
    rw [first.json] at later
    rw [Run.rounds, Action.run_bind]
    refine ⟨later.value, ?_, later.json.trans first.json, later.steady⟩
    simp only [first.events, later.events, roundsEvents]

end Attempts

end Launcher.Reporter
