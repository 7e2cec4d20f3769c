import Launcher.Proofs.Launch.Channels
import Launcher.Proofs.Launch.Success

/-! Whether a launch that succeeds has delivered what it wrote: always on the stream of results, and
beside them unless what was written last is that a launch failed. -/

namespace Launcher

namespace Transcript

/-- Behind every write to a stream, the stream delivered what it held back. -/
def Delivered (transcript : Transcript) (stream : Stream) : Prop :=
  ∀ before taken failure after,
    transcript = before ++ .write stream taken failure :: after → .flush stream none ∈ after

/-- Where nothing happens, nothing is left to deliver. -/
@[simp] theorem delivered_nil (stream : Stream) : Delivered [] stream := by
  -- There is no write in an empty list.
  intro before taken failure after split
  simp at split

/-- What is written first is delivered by what follows, as is everything else that follows. -/
theorem delivered_cons_iff {event : Event} {rest : Transcript} {stream : Stream} :
    Delivered (event :: rest) stream ↔
      ((∃ taken failure, event = .write stream taken failure) → .flush stream none ∈ rest) ∧
        rest.Delivered stream := by
  constructor
  · -- A write among the later events has the same events behind it as in the whole.
    intro delivered
    refine ⟨?_, ?_⟩
    · rintro ⟨taken, failure, rfl⟩
      exact delivered [] taken failure rest rfl
    · rintro before taken failure after rfl
      exact delivered (event :: before) taken failure after rfl
  · rintro ⟨first, later⟩ before taken failure after split
    -- The write is the first event, or one of the others.
    cases before with
    | nil =>
      obtain ⟨rfl, rfl⟩ := List.cons.inj split
      exact first ⟨taken, failure, rfl⟩
    | cons head between =>
      obtain ⟨rfl, rfl⟩ := List.cons.inj split
      exact later between taken failure after rfl

/-- What is written to the stream first is delivered by what follows. -/
@[simp] theorem delivered_write_cons {other stream : Stream} {taken : Bytes}
    {failure : Option Cause} {rest : Transcript} :
    Delivered (.write other taken failure :: rest) stream ↔
      (other = stream → .flush stream none ∈ rest) ∧ rest.Delivered stream := by
  -- The first event is a write, which needs a flush behind it if it is on the stream.
  simp [delivered_cons_iff]

/-- Asking for delivery leaves nothing more to deliver. -/
@[simp] theorem delivered_flush_cons {other stream : Stream} {failure : Option Cause}
    {rest : Transcript} :
    Delivered (.flush other failure :: rest) stream ↔ rest.Delivered stream := by
  -- A flush needs nothing behind it.
  simp [delivered_cons_iff]

/-- A launch leaves nothing to deliver of the launcher. -/
@[simp] theorem delivered_launch_cons {command : CommandLine} {child : Child} {rest : Transcript}
    {stream : Stream} :
    Delivered (.launch command child :: rest) stream ↔ rest.Delivered stream := by
  -- A launch needs nothing behind it.
  simp [delivered_cons_iff]

/-- A log record leaves nothing to deliver. -/
@[simp] theorem delivered_log_cons {record : LogRecord} {rest : Transcript} {stream : Stream} :
    Delivered (.log record :: rest) stream ↔ rest.Delivered stream := by
  -- A log record needs nothing behind it.
  simp [delivered_cons_iff]

/-- Of two parts, the first one may leave it to the second one to deliver. -/
theorem delivered_append_iff {before after : Transcript} {stream : Stream} :
    Delivered (before ++ after) stream ↔
      after.Delivered stream ∧ (before.Delivered stream ∨ .flush stream none ∈ after) := by
  induction before with
  | nil => simp
  | cons event before ih =>
    rw [List.cons_append, delivered_cons_iff, delivered_cons_iff, ih, List.mem_append]
    -- Either everything is delivered by the second part, or nothing is.
    by_cases flushed : .flush stream none ∈ after
    · simp [flushed]
    · simp [flushed, and_left_comm]

/-- Log records leave nothing to deliver. -/
@[simp] theorem delivered_map_log (records : List LogRecord) (stream : Stream) :
    Delivered (records.map .log) stream := by
  -- None of the records is a write.
  induction records with
  | nil => exact delivered_nil stream
  | cons record rest ih => exact delivered_log_cons.mpr ih

/-- A stream that took anything and left nothing to deliver did deliver something. -/
theorem flush_mem_of_delivered {transcript : Transcript} {stream : Stream}
    (delivered : transcript.Delivered stream) (written : transcript.written stream ≠ []) :
    .flush stream none ∈ transcript := by
  -- Some event brought what was written.
  obtain ⟨event, member, adds⟩ : ∃ event ∈ transcript, event.written stream ≠ [] := by
    by_contra none
    push Not at none
    exact written (List.flatMap_eq_nil_iff.mpr none)
  obtain ⟨before, after, rfl⟩ := List.append_of_mem member
  -- Only a write to the stream adds to what it took.
  cases event with
  | write other taken failure =>
    obtain rfl : other = stream := by
      by_contra different
      simp [Event.written, different] at adds
    exact List.mem_append_right _
      (List.mem_cons_of_mem _ (delivered before taken failure after rfl))
  | flush other failure | launch command child | log record => exact absurd rfl adds

end Transcript

namespace Reporter

open Transcript (Delivered delivered_append_iff)

/-- What is delivered to a stream leaves nothing to deliver. -/
@[simp] theorem delivered_delivery (stream other : Stream) (texts : List String) :
    (delivery stream texts).Delivered other := by
  induction texts with
  | nil => simp [delivery, writing]
  | cons text rest ih =>
    rw [delivery, writing] at ih ⊢
    -- What delivers the other lines delivers the first one as well.
    refine Transcript.delivered_write_cons.mpr ⟨?_, ih⟩
    rintro rfl
    simp

/-- Lines are delivered to their stream and to no other one. -/
@[simp] theorem flush_mem_delivery_iff {stream other : Stream} {texts : List String} :
    .flush other none ∈ delivery stream texts ↔ other = stream := by
  -- The only flush is the one at the end, on the stream of the lines.
  simp [delivery, writing]

/-- A launch leaves nothing to deliver of the launcher, whether or not the program was started. -/
@[simp] theorem delivered_launchEvents (command : CommandLine) (child : Child) (stream : Stream) :
    (Run.launchEvents command child).Delivered stream := by
  -- Nothing is written, and so nothing is held back.
  rw [Run.launchEvents]
  cases child.ending <;> simp

/-- What is logged behind a run leaves nothing to deliver. -/
@[simp] theorem delivered_endingRemarks (command : CommandLine) (index : Nat) (child : Child)
    (stream : Stream) : (Run.endingRemarks command index child).Delivered stream := by
  -- There is at most a log record.
  rw [Run.endingRemarks]
  split <;> simp

/-- A launch asks no stream to deliver. -/
theorem flush_not_mem_launchEvents (command : CommandLine) (child : Child) (stream : Stream)
    (failure : Option Cause) : .flush stream failure ∉ Run.launchEvents command child := by
  -- The launch itself and a remark are all that there may be.
  rw [Run.launchEvents]
  cases child.ending <;> simp

/-- A round delivers the announcement of its run, which stands beside the results in JSON mode
only. -/
theorem flush_mem_roundEvents_iff {json : Bool} {command : CommandLine} {index : Nat}
    {child : Child} :
    .flush .err none ∈ roundEvents json command index child ↔ json = true := by
  -- What is told of the end of the run is written only, so the announcement alone is delivered.
  cases outcome : child.outcome command.program <;>
    simp [roundEvents, endEvents, failureLines, writing, flush_not_mem_launchEvents,
      Run.endingRemarks, outcome, progressStream]

/-- A round leaves nothing to deliver beside the results unless its launch failed. -/
theorem delivered_roundEvents_iff {json : Bool} {command : CommandLine} {index : Nat}
    {child : Child} :
    (roundEvents json command index child).Delivered .err ↔
      ∀ message, child.outcome command.program ≠ .launchFailed message := by
  -- The last thing that is written is that the launch failed, if so.
  rw [roundEvents, delivered_append_iff]
  cases outcome : child.outcome command.program with
  | launchFailed message =>
    simp [delivered_append_iff, endEvents, failureLines, writing, Run.endingRemarks, outcome,
      Outcome.isInterrupt]
  | exited code | signaled signal =>
    simp [delivered_append_iff, endEvents, failureLines, writing, outcome]

/-- The runs whose end is told behind everything that is delivered beside the results. In JSON mode,
the announcement of each run delivers what was told of the runs before it. -/
def lastTold (json : Bool) (iterations : List Iteration) : List Iteration :=
  if json then iterations.getLast?.toList else iterations

/-- In JSON mode, rounds deliver something beside the results as soon as there is one. -/
theorem flush_mem_roundsEvents_iff {json : Bool} {command : CommandLine} {index : Nat}
    {run : List Child} :
    .flush .err none ∈ roundsEvents json command index run ↔ json = true ∧ run ≠ [] := by
  -- Each round flushes the stream of progress, which is this one in JSON mode alone.
  induction run generalizing index with
  | nil => simp [roundsEvents]
  | cons child rest ih => simp [roundsEvents, flush_mem_roundEvents_iff, ih]; tauto

/-- Rounds leave nothing to deliver beside the results unless one of the runs that are told of last
is recorded as a failed launch. -/
theorem delivered_roundsEvents_iff {json : Bool} {command : CommandLine} {index : Nat}
    {run : List Child} :
    (roundsEvents json command index run).Delivered .err ↔
      ∀ iteration ∈ lastTold json (Run.records command index run),
        ∀ message, iteration.outcome ≠ .launchFailed message := by
  induction run generalizing index with
  | nil => cases json <;> simp [roundsEvents, Run.records, lastTold]
  | cons child rest ih =>
    rw [roundsEvents, delivered_append_iff, ih, delivered_roundEvents_iff,
      flush_mem_roundsEvents_iff, Run.records]
    cases json with
    | false =>
      -- No later round delivers what is told of this one.
      simp [lastTold, and_comm]
    | true =>
      -- Only the last round is followed by no other one.
      cases rest with
      | nil => simp [lastTold, Run.records]
      | cons next later => simp [lastTold, Run.records]

end Reporter

namespace Launch

open Transcript (delivered_append_iff)

section Courses

variable {ω : Type} [Host ω] {settings : Settings} {tokens : List String} {world next : ω}
  {result : Option Report} {events : Bool → Transcript}

/-- A launch that succeeds delivers its results in the end. -/
theorem Course.delivers_results (course : Course settings tokens world (.ok result) events next)
    (json : Bool) : (events json).Delivered .out := by
  cases course with
  | listed asked found => simp [listingEvents]
  | helped asked => simp
  | launched asked built ran told =>
    -- Whatever comes before the report is delivered with it.
    exact delivered_append_iff.mpr ⟨by simp, .inr (by simp)⟩

/-- A launch that succeeds leaves nothing to deliver beside its results unless one of the runs that
are told of last is recorded as a failed launch. -/
theorem Course.delivers_beside_iff
    (course : Course settings tokens world (.ok result) events next) (json : Bool) :
    (events json).Delivered .err ↔
      ∀ report, result = some report → ∀ iteration ∈ Reporter.lastTold json report.iterations,
        ∀ message, iteration.outcome ≠ .launchFailed message := by
  cases course with
  | listed asked found => simp [listingEvents]
  | helped asked => simp
  | launched asked built ran told =>
    subst told
    -- The command and the report deliver what is theirs, so the rounds are what counts.
    simp [runningEvents, delivered_append_iff, Reporter.delivered_roundsEvents_iff, reportOn]

end Courses

variable {δ ω : Type} [Sink δ] [Host ω] {settings : Settings} {tokens : List String}
  {start : Reporter δ × ω} {result : Option Report}

/-- A launch that succeeds, over whatever sinks, has delivered all of its results. Beside them
it has delivered everything exactly if none of the runs that are told of last failed to start: none
of all runs as text, and not the last one in JSON mode. The line on such a run is written, and
nothing asks for its delivery. -/
theorem success_delivers_all_but_failure_line
    (succeeds : ((harness settings tokens : Launching δ ω (Option Report)).run.run start).value =
      .ok result) :
    let step := (harness settings tokens : Launching δ ω (Option Report)).run.run start
    step.events.Delivered .out ∧
    (step.events.Delivered .err ↔
      ∀ report, result = some report →
        ∀ iteration ∈ Reporter.lastTold start.1.json report.iterations,
          ∀ message, iteration.outcome ≠ .launchFailed message) := by
  -- The events of a success are those of one of its courses, each of which delivers as stated.
  obtain ⟨events, next, course, happened⟩ := course_of_ok succeeds
  simp only [happened]
  exact ⟨course.delivers_results _, course.delivers_beside_iff _⟩

/-- In JSON mode, the line on a failed launch is delivered with the next announcement. -/
theorem success_delivers_failure_line_between_runs :
    let machine : Rehearsal :=
      { children := [⟨.notStarted .notFound, "noon", 0, [], []⟩, ⟨.exited 0, "noon", 5, [], []⟩] }
    let step := (harness {} ["GenMS", "alloc", "repeat=2"] :
      Launching BoundedSink Rehearsal (Option Report)).run.run
        ({ json := true, out := {}, err := {} }, machine)
    ∃ report, step.value = .ok (some report) ∧ report.exitCodes = [-1, 0] ∧
      step.events.Delivered .out ∧ step.events.Delivered .err := by
  intro machine step
  -- The codes and the last outcome of this run are computed.
  have known : step.value.toOption.map (Option.map fun report =>
      (report.exitCodes, (Reporter.lastTold true report.iterations).map Iteration.outcome)) =
        some (some ([-1, 0], [.exited 0])) := by
    decide +kernel
  obtain ⟨result, ended, facts⟩ := exists_ok_of_known known
  obtain ⟨report, rfl, seen⟩ := Option.map_eq_some_iff.mp facts
  obtain ⟨codes, last⟩ := Prod.mk.inj seen
  obtain ⟨results, beside⟩ := success_delivers_all_but_failure_line ended
  refine ⟨report, ended, codes, results, beside.mpr ?_⟩
  -- The last run did not fail to launch.
  rintro told ⟨rfl⟩ iteration member message failed
  have outcome := List.mem_map_of_mem (f := Iteration.outcome) member
  rw [last, failed] at outcome
  simp at outcome

/-- As text, the line on a failed launch is left to a stream that fails to deliver it, and the whole
succeeds. -/
theorem success_leaves_failure_line :
    let step := (harness {} ["GenMS", "alloc"] :
      Launching BoundedSink Rehearsal (Option Report)).run.run
        ({ json := false, out := {}, err := { flushFails := true } }, {})
    (∃ report, step.value = .ok (some report)) ∧ step.events.written .err ≠ [] ∧
      .flush .err none ∉ step.events ∧ ¬ step.events.Delivered .err := by
  intro step
  -- Three facts of one run, which together contradict that everything was delivered.
  have known : step.value.toOption.map Option.isSome = some true := by
    decide
  have written : step.events.written .err ≠ [] := by
    decide
  have unflushed : .flush .err none ∉ step.events := by
    decide
  obtain ⟨result, ended, some⟩ := exists_ok_of_known known
  obtain ⟨report, rfl⟩ := Option.isSome_iff_exists.mp some
  exact ⟨⟨report, ended⟩, written, unflushed, fun delivered =>
    unflushed (Transcript.flush_mem_of_delivered delivered written)⟩

end Launch

end Launcher
