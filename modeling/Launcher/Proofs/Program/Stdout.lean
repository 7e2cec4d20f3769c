import Launcher.Program.Harness
import Launcher.Proofs.Launch.Channels
import Mathlib.Data.List.Basic

/-! What appears on the output stream of the harness program in JSON mode: one line of JSON, behind
whatever its children write, since these share the stream. -/

namespace Launcher

/-- On the output stream, an event shows what it adds for the children or for the launcher. -/
theorem Event.shown_out (filter : LogFilter) (stamp : String) (event : Event) :
    event.shown filter stamp .out = event.fromChild .out ++ event.written .out := by
  -- Log records go to the other stream; the rest is either of the child or of the launcher.
  cases event <;> simp [Event.shown, Event.fromChild, Event.written]

namespace Transcript

variable (filter : LogFilter) (stamp : String)

/-- Where the launcher writes nothing to it, the output stream shows what the children write. -/
theorem shown_of_written_eq_nil {transcript : Transcript} (silent : transcript.written .out = []) :
    transcript.shown filter stamp .out = transcript.fromChildren .out := by
  -- Event by event: where the launcher writes nothing, only bytes of children are left.
  refine List.flatMap_congr fun event member => ?_
  rw [Event.shown_out, List.flatMap_eq_nil_iff.mp silent event member, List.append_nil]

/-- Without launches, nothing is written by children. -/
theorem fromChildren_of_launches_eq_nil {transcript : Transcript}
    (idle : transcript.launches = []) (stream : Stream) : transcript.fromChildren stream = [] := by
  -- Only a launch has a child, and there is none.
  refine List.flatMap_eq_nil_iff.mpr fun event member => ?_
  have other := List.filterMap_eq_nil_iff.mp idle event member
  cases event with
  | launch command child => cases other
  | write | flush | log => rfl

/-- Without launches, the output stream shows what the launcher writes. -/
theorem shown_of_launches_eq_nil {transcript : Transcript} (idle : transcript.launches = []) :
    transcript.shown filter stamp .out = transcript.written .out := by
  -- Event by event: without children, only what the launcher writes is left.
  refine List.flatMap_congr fun event member => ?_
  have childless := fromChildren_of_launches_eq_nil idle .out
  rw [Event.shown_out, List.flatMap_eq_nil_iff.mp childless event member, List.nil_append]

/-- What appears on the output stream before and after adds up. -/
theorem shown_append (before after : Transcript) (stream : Stream) :
    Transcript.shown (before ++ after) filter stamp stream =
      before.shown filter stamp stream ++ after.shown filter stamp stream :=
  List.flatMap_append

/-- If the launcher writes to the output stream only behind the last of the launches, the stream
shows what the children write and then what the launcher writes. -/
theorem shown_append_of_apart {before after : Transcript} (silent : before.written .out = [])
    (idle : after.launches = []) :
    Transcript.shown (before ++ after) filter stamp .out =
      Transcript.fromChildren (before ++ after) .out ++ after.written .out := by
  -- The bytes of children are all in the first part, and those of the launcher in the second.
  have children : Transcript.fromChildren (before ++ after) .out =
      before.fromChildren .out ++ after.fromChildren .out := List.flatMap_append
  rw [shown_append, shown_of_written_eq_nil filter stamp silent,
    shown_of_launches_eq_nil filter stamp idle, children, fromChildren_of_launches_eq_nil idle,
    List.append_nil]

end Transcript

namespace Program

variable {δ ω : Type} [Sink δ]

/-- Over sinks that never fail, lines that are announced are written, and the sinks stay sound. -/
theorem announce_run {state : Reporter δ × ω} (steady : state.1.Steady) (stream : Stream)
    (lines : List String) :
    let step := (announce stream lines : Action (Reporter δ × ω) Unit).run state
    step.events = Reporter.writing stream lines ∧ step.state.1.Steady := by
  have written := Reporter.foreseen_writeLines steady stream lines
  refine ⟨?_, written.steady⟩
  -- Whether the lines could be written is not looked at.
  show ((Reporter.writeLines stream lines).run.run state.1).events ++ [] = _
  rw [List.append_nil, written.events]

/-- Over sinks that never fail, last words are written, and the program ends with its own status. -/
theorem conclude_run {state : Reporter δ × ω} (steady : state.1.Steady) (words : List String)
    (status : Nat) :
    let step := (conclude words status : Action (Reporter δ × ω) Nat).run state
    step.value = status ∧ step.events = Reporter.writing .err words := by
  -- A steady sink takes the words, so that the status is the one meant.
  have written := Reporter.foreseen_writeLines steady .err words
  simp [conclude, written.value, written.events]

namespace Harness

/-- An error as JSON. -/
def failureJson (error : LaunchError) : Json :=
  errorJson (codeOf (Failure.launch error).exitStatus) error.message

/-- Over sinks that never fail, an error is told of in words beside the results, in JSON mode behind
one line among them, and the exit status is the one for the error. -/
theorem fail_run {state : Reporter δ × ω} (steady : state.1.Steady) (json : Bool)
    (error : LaunchError) :
    let step := (fail json error : Action (Reporter δ × ω) Nat).run state
    step.value = (Failure.launch error).exitStatus ∧
      step.events = Reporter.writing .out (if json then [(failureJson error).render] else []) ++
        Reporter.writing .err (complaintLines error) := by
  -- In JSON mode the object comes first, and leaves a steady reporter for the words.
  cases json with
  | true =>
    have object := announce_run steady .out [(failureJson error).render]
    have words := conclude_run object.2 (complaintLines error) (Failure.launch error).exitStatus
    exact ⟨words.1, congr (congrArg (· ++ ·) object.1) words.2⟩
  | false => exact conclude_run steady (complaintLines error) (Failure.launch error).exitStatus

variable [Host ω] {order : Order} {state : Reporter δ × ω}

/-- An order whose launch succeeds ends with it. -/
theorem execute_run_of_ok {result : Option Report}
    (succeeds : ((Launch.harness order.settings order.tokens).run.run state).value = .ok result) :
    let launch := (Launch.harness order.settings order.tokens).run.run state
    let step := (execute order).run state
    step.value = 0 ∧ step.events =
      .log (.resolving order.tokens order.settings.java order.settings.harnessJar) ::
        launch.events := by
  -- A success adds nothing behind the events of the launch.
  simp only [execute, Action.run_bind, Action.run_log, succeeds, Action.run_pure]
  simp

/-- An order whose launch fails ends with telling of the error. -/
theorem execute_run_of_error {error : LaunchError}
    (fails : ((Launch.harness order.settings order.tokens).run.run state).value = .error error) :
    let launch := (Launch.harness order.settings order.tokens).run.run state
    let told := (fail order.json error).run launch.state
    let step := (execute order).run state
    step.value = told.value ∧ step.events =
      .log (.resolving order.tokens order.settings.java order.settings.harnessJar) ::
        (launch.events ++ told.events) := by
  -- The error is told in the state that the launch left.
  simp only [execute, Action.run_bind, Action.run_log, fails]
  simp

/-- Over sinks that never fail, an order whose launch fails leaves nothing but log records, and what
tells of the error. -/
theorem events_execute_of_error (steady : state.1.Steady) {error : LaunchError}
    (fails : ((Launch.harness order.settings order.tokens).run.run state).value = .error error) :
    ∃ records : List LogRecord, ((execute order).run state).events = records.map .log ++
      (Reporter.writing .out (if order.json then [(failureJson error).render] else []) ++
        Reporter.writing .err (complaintLines error)) := by
  obtain ⟨ended, events, next, course, foreseen⟩ :=
    Launch.exists_course δ order.settings order.tokens state.2
  -- The launch takes the course of an error, during which there are only log records.
  have arrives := foreseen state.1 steady
  obtain rfl : ended = .error error := arrives.value.symm.trans fails
  obtain ⟨records, logged⟩ := course.only_logs state.1.json
  refine ⟨.resolving order.tokens order.settings.java order.settings.harnessJar :: records, ?_⟩
  rw [(execute_run_of_error fails).2, (fail_run arrives.steady order.json error).2, arrives.events,
    logged]
  rfl

/-- The value that is printed in JSON mode tells how a launch ended, as does the exit status;
without a result, nothing was launched. -/
def Answers (order : Order) (world : ω) (value : Json) (step : Step (Reporter δ × ω) Nat) :
    Except LaunchError (Option Report) → Prop
  | .ok result =>
    step.value = 0 ∧ value.member? "ok" = some (.bool true) ∧
      Launch.Tells order.settings order.tokens world value result
  | .error error =>
    step.value = (Failure.launch error).exitStatus ∧ value = failureJson error ∧
      step.events.launches = []

/-- Over sinks that never fail, carrying out an order in JSON mode shows whatever the children
write, and behind it one line that tells how the launch ended. -/
theorem execute_ends_in_line (order : Order) (state : Reporter δ × ω) (filter : LogFilter)
    (stamp : String) (steady : state.1.Steady)
    (json : state.1.json = true) (asked : order.json = true) :
    let launch := (Launch.harness order.settings order.tokens).run.run state
    let step := (execute order).run state
    ∃ value line, Json.IsLine value line ∧
      step.events.shown filter stamp .out = step.events.fromChildren .out ++ line ∧
      Answers order state.2 value step launch.value := by
  intro launch step
  obtain ⟨ended, events, next, course, foreseen⟩ :=
    Launch.exists_course δ order.settings order.tokens state.2
  have arrives := foreseen state.1 steady
  have value : launch.value = ended := arrives.value
  have happened : launch.events = events true := json ▸ arrives.events
  rw [value]
  cases ended with
  | ok result =>
    -- The line is delivered behind everything else, in particular behind the last of the launches.
    obtain ⟨status, done⟩ := execute_run_of_ok value
    obtain ⟨before, members, delivered, silent, ok, tells⟩ := course.delivers
    refine ⟨.obj members, _, Json.isLine_render members, ?_, status, ok, tells⟩
    rw [show step.events = _ from done, show launch.events = _ from happened, delivered,
      ← List.cons_append, Transcript.shown_append_of_apart filter stamp (by simpa using silent)
        (Reporter.launches_delivery _ _)]
    simp [Reporter.lineBytes]
  | error error =>
    -- Nothing was launched, and the line on the error is the only one.
    have code := (execute_run_of_error value).1.trans (fail_run arrives.steady order.json error).1
    obtain ⟨records, all⟩ := events_execute_of_error steady value
    rw [asked] at all
    refine ⟨failureJson error, _, Json.isLine_render _, ?_, code, rfl, ?_⟩
    · rw [show step.events = _ from all,
        Transcript.shown_append_of_apart filter stamp (by simp) (by simp)]
      simp [Reporter.lineBytes, failureJson, errorJson]
    · rw [show step.events = _ from all]
      simp

/-- Arguments that make up an order have it carried out. -/
theorem start_of_read {order : Order} {environment : Arguments.Environment} {arguments : List Bytes}
    (read : Harness.order environment arguments = .ok order) (out err : δ) (world : ω) :
    start environment arguments out err world =
      (execute order).run ({ json := order.json, out, err }, world) := by
  -- Only arguments that make up no order are answered by themselves.
  simp only [start, read]

/-- Over sinks that never fail, the program in JSON mode shows on its output stream whatever is
written there until its children have ended, and behind it one line that tells how the launch ended,
and nothing else. So the stream is that line unless something is written to it until a child has
ended; what processes that a child leaves running write later is not told of. -/
theorem stdout_ends_in_json_line (environment : Arguments.Environment) (arguments : List Bytes)
    {order : Order} (read : Harness.order environment arguments = .ok order)
    (asked : order.json = true) {out err : δ} (steadyOut : Sink.Steady out)
    (steadyErr : Sink.Steady err) (world : ω) (filter : LogFilter) (stamp : String) :
    let launch := (Launch.harness order.settings order.tokens :
      Launching δ ω (Option Report)).run.run ({ json := true, out, err }, world)
    let step := start environment arguments out err world
    ∃ value line, Json.IsLine value line ∧
      step.events.shown filter stamp .out = step.events.fromChildren .out ++ line ∧
      Answers order world value step launch.value := by
  intro launch step
  -- The order is carried out in JSON mode, which it asks for itself.
  have carried : step = (execute order).run ({ json := true, out, err }, world) := by
    simp only [step, start_of_read read, asked]
  rw [carried]
  exact execute_ends_in_line order ({ json := true, out, err }, world) filter stamp
    (.ofSinks true steadyOut steadyErr) rfl asked

/-- Arguments that ask for one run, to be reported on in JSON. -/
def singleRun : List Bytes := ["--json", "--java", "./j", "GenMS", "alloc"].map utf8

/-- A machine whose only child writes a line to the stream that it shares with the launcher. -/
def talkative : Launch.Rehearsal where
  children := [⟨.exited 3, "noon", 5, utf8 "child\n", []⟩]

/-- The arguments are read, and ask for JSON. -/
theorem exists_order_singleRun :
    ∃ order, Harness.order [] singleRun = .ok order ∧ order.json = true := by
  -- The order is computed; only its mode is asked for.
  have known : (Harness.order [] singleRun).toOption.map Order.json = some true := by
    decide +kernel
  exact Launch.exists_ok_of_known known

/-- The child is heard. -/
theorem fromChildren_talkative :
    (start [] singleRun ({} : BoundedSink) {} talkative).events.fromChildren .out =
      utf8 "child\n" := by
  -- The events of one run are computed.
  decide +kernel

/-- A child that says something is heard before the report. -/
theorem stdout_ends_in_json_line_behind_child :
    let step := start [] singleRun ({} : BoundedSink) {} talkative
    ∃ order value line, Harness.order [] singleRun = .ok order ∧ order.json = true ∧
      Sink.Steady ({} : BoundedSink) ∧ Json.IsLine value line ∧
      step.events.shown .standard "" .out = utf8 "child\n" ++ line := by
  intro step
  have steady := BoundedSink.steady_unlimited
  obtain ⟨order, read, asked⟩ := exists_order_singleRun
  obtain ⟨value, line, single, shown, -⟩ :=
    stdout_ends_in_json_line [] singleRun read asked steady steady talkative .standard ""
  -- What the child wrote is known, and the line stands behind it.
  exact ⟨order, value, line, read, asked, steady, single, fromChildren_talkative ▸ shown⟩

/-- Such a child is why the output stream in JSON mode need not be a single line of JSON. -/
theorem stdout_of_child_not_isLine :
    let step := start [] singleRun ({} : BoundedSink) {} talkative
    (∃ order, Harness.order [] singleRun = .ok order ∧ order.json = true) ∧
      Sink.Steady ({} : BoundedSink) ∧
      ∀ filter stamp, ¬ ∃ value, Json.IsLine value (step.events.shown filter stamp .out) := by
  intro step
  have steady := BoundedSink.steady_unlimited
  obtain ⟨order, read, asked⟩ := exists_order_singleRun
  refine ⟨⟨order, read, asked⟩, steady, fun filter stamp => ?_⟩
  rintro ⟨other, whole⟩
  -- The program executes the order that its arguments are read as.
  have carried : step =
      (execute order).run ({ json := true, out := {}, err := {} }, talkative) := by
    simp only [step, start_of_read read, asked]
  obtain ⟨value, line, single, shown, -⟩ := execute_ends_in_line order
    (({ json := true, out := {}, err := {} } : Reporter BoundedSink), talkative) filter stamp
    (.ofSinks true steady steady) rfl asked
  rw [← carried, show step.events.fromChildren .out = _ from fromChildren_talkative] at shown
  -- The line of the child and the line of the launcher are two.
  have lines : (step.events.shown filter stamp .out).count lineEnd = 1 := whole.count_lineEnd
  rw [shown, List.count_append, single.count_lineEnd] at lines
  exact absurd lines (by decide)

end Harness

end Program

end Launcher
