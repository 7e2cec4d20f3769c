import Launcher.Proofs.Sink
import Launcher.Proofs.Transcript
import Launcher.Reporter

/-! How the reporter carries out what it is asked to print, one attempt at a time. -/

namespace Launcher.Reporter

variable {δ : Type}

/-- The cause of a failure, if there was one. -/
def causeOf : Except Cause Unit → Option Cause
  | .ok () => none
  | .error cause => some cause

/-- The cause of a result is what it was made from. -/
@[simp] theorem causeOf_resultOf (failure : Option Cause) :
    causeOf (resultOf failure) = failure := by
  cases failure <;> rfl

/-- The result of a cause is what it was taken from. -/
@[simp] theorem resultOf_causeOf (result : Except Cause Unit) :
    resultOf (causeOf result) = result := by
  cases result <;> rfl

/-- Only without a failure there is success. -/
theorem resultOf_eq_ok {failure : Option Cause} : resultOf failure = .ok () ↔ failure = none := by
  cases failure <;> simp [resultOf]

/-- A failure is the cause that was met. -/
theorem resultOf_eq_error {failure : Option Cause} {cause : Cause} :
    resultOf failure = .error cause ↔ failure = some cause := by
  cases failure <;> simp [resultOf]

/-- What is logged behind an attempt whose failure is held back, if none was held back before. -/
def heldRemarks (held : Option Cause) (result : Except Cause Unit) : Transcript :=
  match result, held with
  | .error cause, none => [.log (.outputFailed cause.message)]
  | _, _ => []

/-- What is logged about a failure is not written. -/
@[simp] theorem written_heldRemarks (held : Option Cause) (result : Except Cause Unit)
    (stream : Stream) : (heldRemarks held result).written stream = [] := by
  -- There is one log record or none.
  cases result <;> cases held <;> rfl

/-- Holding back keeps the first failure, and the attempt is otherwise carried out as it is. -/
theorem holding_run (attempt : Printing δ Unit) (reporter : Reporter δ) :
    (holding attempt).run reporter =
      let step := attempt.run.run reporter
      ⟨(), step.events ++ heldRemarks step.state.held step.value,
        { step.state with held := step.state.held.or (causeOf step.value) }⟩ := by
  have unfolded : (holding attempt).run reporter =
      match (attempt.run.run reporter).value, (attempt.run.run reporter).state.held with
      | .error cause, none =>
        ⟨(), (attempt.run.run reporter).events ++ [.log (.outputFailed cause.message)],
          { (attempt.run.run reporter).state with held := some cause }⟩
      | _, _ => ⟨(), (attempt.run.run reporter).events, (attempt.run.run reporter).state⟩ := rfl
  rw [unfolded]
  -- How the attempt came about does not matter from here on.
  generalize attempt.run.run reporter = step
  obtain ⟨value, events, json, out, err, held⟩ := step
  -- Only a failure with none before it makes a difference.
  cases value with
  | ok value => cases held <;> simp [heldRemarks, causeOf]
  | error cause => cases held <;> simp [heldRemarks, causeOf]

/-- What happens when lines are written to a stream. -/
def writing (stream : Stream) (texts : List String) : Transcript :=
  texts.map fun text => .write stream (lineBytes text) none

/-- Lines that are written are written to their stream. -/
@[simp] theorem written_writing (stream other : Stream) (texts : List String) :
    (writing stream texts).written other =
      if stream = other then texts.flatMap lineBytes else [] := by
  induction texts with
  | nil => cases stream <;> cases other <;> rfl
  | cons text rest ih =>
    rw [writing] at ih ⊢
    -- All lines go to the same stream, so that the other one gets none of them.
    by_cases same : stream = other <;> simp_all

/-- Lines that are written are printed in order. -/
@[simp] theorem printed_writing (stream : Stream) (texts : List String) :
    (writing stream texts).printed = texts.flatMap lineBytes := by
  -- Each write prints its line, whatever the stream.
  induction texts with
  | nil => rfl
  | cons text rest ih =>
    rw [writing] at ih ⊢
    simpa using ih

/-- Writing lines launches nothing. -/
@[simp] theorem launches_writing (stream : Stream) (texts : List String) :
    (writing stream texts).launches = [] := by
  -- A write starts no program.
  induction texts with
  | nil => rfl
  | cons text rest ih =>
    rw [writing] at ih ⊢
    simpa using ih

/-- What happens when lines are delivered to a stream. -/
def delivery (stream : Stream) (texts : List String) : Transcript :=
  writing stream texts ++ [.flush stream none]

/-- Lines that are delivered are written to their stream. -/
@[simp] theorem written_delivery (stream other : Stream) (texts : List String) :
    (delivery stream texts).written other =
      if stream = other then texts.flatMap lineBytes else [] := by
  -- The flush at the end writes nothing.
  simp [delivery]

/-- Lines that are delivered are printed in order. -/
@[simp] theorem printed_delivery (stream : Stream) (texts : List String) :
    (delivery stream texts).printed = texts.flatMap lineBytes := by
  -- The flush at the end prints nothing.
  simp [delivery]

/-- Delivering lines launches nothing. -/
@[simp] theorem launches_delivery (stream : Stream) (texts : List String) :
    (delivery stream texts).launches = [] := by
  -- Neither a write nor a flush starts a program.
  simp [delivery]

variable [Sink δ]

/-- Writing a line offers its bytes to the sink behind the stream. -/
theorem writeLine_run (stream : Stream) (text : String) (reporter : Reporter δ) :
    (writeLine stream text).run.run reporter =
      let answer := Sink.write (reporter.sink stream) (lineBytes text)
      ⟨resultOf answer.1.failure?,
        [.write stream (answer.1.taken (lineBytes text)) answer.1.failure?],
        reporter.withSink stream answer.2⟩ := rfl

/-- Delivery is asked of the sink behind the stream. -/
theorem flush_run (stream : Stream) (reporter : Reporter δ) :
    (flush stream).run.run reporter =
      let answer := Sink.flush (reporter.sink stream)
      ⟨resultOf answer.1, [.flush stream answer.1], reporter.withSink stream answer.2⟩ := rfl

/-- A line that is written without a failure is taken in full. -/
theorem events_writeLine {stream : Stream} {text : String} {reporter : Reporter δ}
    (succeeds : ((writeLine stream text).run.run reporter).value = .ok ()) :
    ((writeLine stream text).run.run reporter).events = writing stream [text] := by
  -- A sink that does not fail takes everything that it is offered.
  have sound : (Sink.write (reporter.sink stream) (lineBytes text)).1.failure? = none :=
    resultOf_eq_ok.mp succeeds
  rw [writeLine_run]
  simp only [sound, Receipt.taken_of_sound sound]
  rfl

/-- Lines that are written without a failure are taken in full, one after the other. -/
theorem events_writeLines {stream : Stream} {texts : List String} {reporter : Reporter δ}
    (succeeds : ((writeLines stream texts).run.run reporter).value = .ok ()) :
    ((writeLines stream texts).run.run reporter).events = writing stream texts := by
  induction texts generalizing reporter with
  | nil => rfl
  | cons text rest ih =>
    -- All lines succeed only if the first one and the later ones do.
    obtain ⟨value, first, later⟩ := Action.ok_of_run_bind succeeds
    rw [writeLines, Action.run_bind_of_ok first]
    simp only [events_writeLine first, ih later]
    rfl

/-- While lines are written, bytes are offered to their stream, and nothing else happens. -/
theorem eq_write_of_mem_writeLines {stream : Stream} {texts : List String} {reporter : Reporter δ}
    {event : Event} (member : event ∈ ((writeLines stream texts).run.run reporter).events) :
    ∃ taken failure, event = .write stream taken failure := by
  induction texts generalizing reporter with
  | nil => cases member
  | cons text rest ih =>
    rw [writeLines] at member
    cases first : ((writeLine stream text).run.run reporter).value with
    | ok done =>
      -- The event belongs to the first line or to one of the others.
      rw [Action.run_bind_of_ok first] at member
      rcases List.mem_append.mp member with own | later
      · exact ⟨_, _, List.mem_singleton.mp own⟩
      · exact ih later
    | error failure =>
      -- A line that fails is the last one.
      rw [Action.run_bind_of_error first] at member
      exact ⟨_, _, List.mem_singleton.mp member⟩

/-- Lines are not all written only if their stream fails. -/
theorem failure_mem_writeLines {stream : Stream} {texts : List String} {reporter : Reporter δ}
    {cause : Cause}
    (fails : ((writeLines stream texts).run.run reporter).value = .error cause) :
    ∃ taken, .write stream taken (some cause) ∈
      ((writeLines stream texts).run.run reporter).events := by
  induction texts generalizing reporter with
  | nil => cases fails
  | cons text rest ih =>
    rw [writeLines] at fails ⊢
    cases first : ((writeLine stream text).run.run reporter).value with
    | ok done =>
      -- The failure comes with one of the other lines.
      rw [Action.run_bind_of_ok first] at fails ⊢
      obtain ⟨taken, member⟩ := ih fails
      exact ⟨taken, List.mem_append_right _ member⟩
    | error failure =>
      -- The failure comes with the first line, and it is the one of its write.
      rw [Action.run_bind_of_error first] at fails ⊢
      obtain rfl : failure = cause := Except.error.inj fails
      have failed : (Sink.write (reporter.sink stream) (lineBytes text)).1.failure? =
          some failure := resultOf_eq_error.mp first
      refine ⟨(Sink.write (reporter.sink stream) (lineBytes text)).1.taken (lineBytes text), ?_⟩
      simp [writeLine_run, failed]

/-- Lines that are delivered without a failure are taken in full, and then delivered. -/
theorem events_deliver {stream : Stream} {texts : List String} {reporter : Reporter δ}
    (succeeds : ((deliver stream texts).run.run reporter).value = .ok ()) :
    ((deliver stream texts).run.run reporter).events = delivery stream texts := by
  obtain ⟨value, first, later⟩ := Action.ok_of_run_bind succeeds
  -- Delivery did not fail either.
  have sound : (Sink.flush (((writeLines stream texts).run.run reporter).state.sink stream)).1 =
      none := resultOf_eq_ok.mp later
  rw [deliver, Action.run_bind_of_ok first]
  simp only [events_writeLines first, flush_run, sound, delivery]

/-- Lines that are delivered without a failure are taken in full, in order. -/
theorem written_deliver {stream : Stream} {texts : List String} {reporter : Reporter δ}
    (succeeds : ((deliver stream texts).run.run reporter).value = .ok ()) :
    ((deliver stream texts).run.run reporter).events.written stream = texts.flatMap lineBytes := by
  -- A success leaves just the events of a delivery.
  rw [events_deliver succeeds, written_delivery, if_pos rfl]

/-- A command is shown beside the results. -/
theorem command_run (command : CommandLine) (reporter : Reporter δ) :
    (Reporter.command command).run.run reporter =
      (deliver (progressStream reporter.json) [commandLine command]).run.run reporter := rfl

/-- A run is announced beside the results, and a failure is held back. -/
theorem started_run (index : Nat) (reporter : Reporter δ) :
    (started index).run reporter =
      (holding (deliver (progressStream reporter.json) [startedLine index])).run reporter := rfl

/-- The lines of a report. -/
def reportLines (json : Bool) (report : Report) : List String :=
  if json then [report.toJson.render] else summaryLines report

/-- The lines of a list of scripts. -/
def scriptLines (json : Bool) (names : List String) : List String :=
  if json then [(scriptsJson names).render] else names

/-- The line of a usage text. -/
def usageLine (json : Bool) (text : String) : String :=
  if json then (usageJson text).render else text

/-- A list of scripts is printed among the results. -/
theorem scripts_run (names : List String) (reporter : Reporter δ) :
    (scripts names).run.run reporter =
      (deliver .out (scriptLines reporter.json names)).run.run reporter := rfl

/-- A usage line is printed among the results. -/
theorem usage_run (text : String) (reporter : Reporter δ) :
    (usage text).run.run reporter =
      (deliver .out [usageLine reporter.json text]).run.run reporter := rfl

/-- A report is printed among the results if no failure is held back. -/
theorem summary_run_of_none {reporter : Reporter δ} (calm : reporter.held = none)
    (report : Report) :
    (summary report).run.run reporter =
      (deliver .out (reportLines reporter.json report)).run.run reporter := by
  -- Releasing nothing succeeds and leaves the reporter as it is.
  have released : (releaseHeld : Printing δ Unit).run.run reporter = ⟨.ok (), [], reporter⟩ := by
    obtain ⟨json, out, err, held⟩ := reporter
    obtain rfl : held = none := calm
    rfl
  rw [summary, Action.run_bind_of_ok (by rw [released])]
  simp only [released]
  rfl

/-- A failure that is held back takes the place of the report, and is held back no longer. -/
theorem summary_run_of_some {reporter : Reporter δ} {cause : Cause}
    (held : reporter.held = some cause) (report : Report) :
    (summary report).run.run reporter = ⟨.error cause, [], { reporter with held := none }⟩ := by
  -- Releasing a failure fails with it, so nothing is printed behind it.
  have released : (releaseHeld : Printing δ Unit).run.run reporter =
      ⟨.error cause, [], { reporter with held := none }⟩ := by
    show (⟨resultOf reporter.held, [], { reporter with held := none }⟩ : Step _ _) = _
    rw [held]
    rfl
  rw [summary, Action.run_bind_of_error (by rw [released])]
  simp only [released]

end Launcher.Reporter
