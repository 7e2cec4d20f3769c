import Launcher.Proofs.Launch.Refusal
import Launcher.Proofs.Launch.Serving
import Launcher.Proofs.Program.Stdout

/-! The exit status of the harness program: it tells whether the launch succeeded and, if not,
whether the command line was at fault, and it does not depend on how the children end. This takes an
error stream that never fails: a program that cannot say what went wrong is aborted instead. -/

namespace Launcher

namespace Failure

/-- Remarks on what was being done leave the launch error at the root. -/
theorem launchError?_foldr_within (contexts : List String) (failure : Failure) :
    (contexts.foldr within failure).launchError? = failure.launchError? := by
  -- A context is put around a failure and leaves the failure inside.
  induction contexts with
  | nil => rfl
  | cons context rest ih => exact ih

/-- Remarks on what was being done leave the exit status. -/
theorem exitStatus_foldr_within (contexts : List String) (failure : Failure) :
    (contexts.foldr within failure).exitStatus = failure.exitStatus := by
  -- The status looks only at the failure inside all contexts.
  simp only [exitStatus, launchError?_foldr_within]

end Failure

namespace Launch

variable {δ ω υ : Type} [Sink δ] [Host ω] [Host υ] {settings : Settings} {tokens : List String}
  {world : ω}

/-- On its course, a launch fails because its tokens are refused, or because the scripts that they
ask for cannot be listed. -/
theorem Course.refused_or_unread {error : LaunchError} {events : Bool → Transcript} {next : ω}
    (course : Course settings tokens world (.error error) events next) :
    Invocation.Refused settings tokens error ∨
      ∃ cause, Request.ofTokens .defaults tokens = .ok .listScripts ∧
        Host.entries world settings.scriptsDir = .error cause ∧
        error = .scriptsDirectory settings.scriptsDir cause := by
  -- A course ends with an error in three ways: the tokens make no sense, the directory cannot be
  -- read, or no command can be built.
  cases course with
  | refused asked => exact .inl (.inl asked)
  | unread asked found => exact .inr ⟨_, asked, found, rfl⟩
  | unbuilt asked built => exact .inl (.inr ⟨_, _, asked, built⟩)

/-- A launch that fails over sinks that never fail does so on every machine that lists the scripts
alike. -/
theorem harness_error_of_alike {reporter : Reporter δ} (steady : reporter.Steady)
    {error : LaunchError}
    (failed : ((harness settings tokens : Launching δ ω (Option Report)).run.run
      (reporter, world)).value = .error error) {other : υ}
    (alike : Host.entries other settings.scriptsDir = Host.entries world settings.scriptsDir) :
    ((harness settings tokens : Launching δ υ (Option Report)).run.run (reporter, other)).value =
      .error error := by
  obtain ⟨ended, events, next, course, foreseen⟩ := exists_course δ settings tokens world
  obtain rfl : ended = .error error := (foreseen reporter steady).value.symm.trans failed
  -- Neither reason has to do with what is run on the machine.
  rcases course.refused_or_unread with refused | ⟨cause, asked, unread, rfl⟩
  · obtain ⟨records, told⟩ := harness_run_of_refused refused (reporter, other)
    exact congrArg Step.value told
  · exact congrArg Step.value (harness_run_of_unread asked (alike.trans unread))

end Launch

/-- Lines that are written to a stream are shown there. -/
theorem Transcript.shown_writing (filter : LogFilter) (stamp : String) (stream other : Stream)
    (lines : List String) :
    Transcript.shown (Reporter.writing stream lines) filter stamp other =
      if stream = other then lines.flatMap Reporter.lineBytes else [] := by
  -- The events are writes of the launcher alone, without records or children.
  have same : Transcript.shown (Reporter.writing stream lines) filter stamp other =
      (Reporter.writing stream lines).written other := by
    refine List.flatMap_congr fun event member => ?_
    obtain ⟨line, _, rfl⟩ := List.mem_map.mp member
    rfl
  rw [same, Reporter.written_writing]

namespace Program

variable {δ ω υ : Type} [Sink δ]

/-- Last words that are taken leave a program its own status, and others abort it. -/
theorem value_conclude (words : List String) (status : Nat) (state : Reporter δ × ω) :
    let step := (conclude words status : Action (Reporter δ × ω) Nat).run state
    step.value = status ∨ step.value = abortStatus ∧ ¬ step.events.Took .err := by
  cases written : ((Reporter.writeLines .err words).run.run state.1).value with
  | ok done => exact .inl (by simp [conclude, written])
  | error cause =>
    -- Words that could not be written met a failure, and it is among the events.
    obtain ⟨taken, member⟩ := Reporter.failure_mem_writeLines written
    refine .inr ⟨by simp [conclude, written], fun took => took taken cause ?_⟩
    simpa [conclude, written] using member

/-- Lines that are announced serve every stream, whether or not they could be written. -/
theorem served_announce {stream : Stream} (other : Stream) (lines : List String)
    {state : Reporter δ × ω} (steady : Sink.Steady (state.1.sink stream)) :
    let step := (announce other lines : Action (Reporter δ × ω) Unit).run state
    Reporter.Served stream step.state.1 step.events := by
  -- Announcing writes the lines and drops a failure, which adds no event.
  have written := Serves.writeLines other lines state.1 steady
  exact ⟨written.steady, Transcript.took_append_iff.mpr ⟨written.took, Transcript.took_nil _⟩⟩

/-- An error stream that never fails takes last words. -/
theorem took_conclude (words : List String) (status : Nat) {state : Reporter δ × ω}
    (steady : Sink.Steady (state.1.sink .err)) :
    ((conclude words status : Action (Reporter δ × ω) Nat).run state).events.Took .err := by
  have written := Serves.writeLines .err words state.1 steady
  -- Whether or not the words were written, nothing else is offered.
  cases ended : ((Reporter.writeLines .err words).run.run state.1).value <;>
    simpa [conclude, ended] using written.took

namespace Harness

/-- The exit status for how a launch ended. -/
def statusOf {α : Type} : Except LaunchError α → Nat
  | .ok _ => 0
  | .error error => (Failure.launch error).exitStatus

/-- An error leads to one of two statuses. -/
@[simp] theorem statusOf_error {α : Type} (error : LaunchError) :
    statusOf (.error error : Except LaunchError α) = if error.isUsage then 2 else 1 := rfl

/-- The status is zero exactly for success. -/
theorem statusOf_eq_zero_iff {α : Type} (ended : Except LaunchError α) :
    statusOf ended = 0 ↔ ∃ result, ended = .ok result := by
  -- An error is about usage or not, and neither of the two statuses is zero.
  cases ended with
  | ok result => simp [statusOf]
  | error error => cases kind : error.isUsage <;> simp [kind]

/-- Of the two other statuses, each stands for the errors of one kind. -/
theorem statusOf_eq_iff {α : Type} (ended : Except LaunchError α) (usage : Bool) :
    statusOf ended = (if usage then 2 else 1) ↔
      ∃ error, ended = .error error ∧ error.isUsage = usage := by
  -- The two kinds of error have the two statuses, and success has neither.
  cases ended with
  | ok result => cases usage <;> simp [statusOf]
  | error error => cases usage <;> cases kind : error.isUsage <;> simp [kind]

/-- What can be seen of an error once it was told of: the words that end what appears beside the
results, and, in JSON mode, the line that is all of the results. -/
structure Complains (json : Bool) (error : LaunchError) (status : Nat) (out err : Bytes) :
    Prop where
  /-- The message comes last, before the usage line for mistakes on the command line only. -/
  words : ∃ before, err = before ++ (Reporter.lineBytes ("error: " ++ error.message) ++
    if status = usageStatus then Reporter.lineBytes ("usage: " ++ usageText) else [])
  /-- In JSON mode, the results are one line that says no, with a code and the same message. -/
  object : json = true → ∃ value details, Json.IsLine value out ∧
    value.member? "ok" = some (.bool false) ∧ value.member? "error" = some details ∧
    details.member? "code" =
      some (.str (if status = usageStatus then "usage_error" else "command_failed")) ∧
    details.member? "message" = some (.str error.message)
  /-- Otherwise, there are no results. -/
  plain : json = false → out = []

/-- Telling of an error gives the exit status for it, unless the words on it are not taken. -/
theorem value_fail (json : Bool) (error : LaunchError) (state : Reporter δ × ω) :
    let step := (fail json error : Action (Reporter δ × ω) Nat).run state
    step.value = (Failure.launch error).exitStatus ∨
      step.value = abortStatus ∧ ¬ step.events.Took .err := by
  cases json with
  | true =>
    -- What is printed before the words does not matter.
    have words := value_conclude (complaintLines error) (Failure.launch error).exitStatus
      ((announce .out [(failureJson error).render] :
        Action (Reporter δ × ω) Unit).run state).state
    exact words.imp_right (And.imp_right fun untaken took =>
      untaken (Transcript.took_append_iff.mp took).2)
  | false => exact value_conclude (complaintLines error) (Failure.launch error).exitStatus state

/-- An error stream that never fails takes the words on an error. -/
theorem took_fail (json : Bool) (error : LaunchError) {state : Reporter δ × ω}
    (steady : Sink.Steady (state.1.sink .err)) :
    ((fail json error : Action (Reporter δ × ω) Nat).run state).events.Took .err := by
  cases json with
  | true =>
    -- The object goes to the other stream, and the words follow.
    have object := served_announce .out [(failureJson error).render] steady
    have words := took_conclude (complaintLines error) (Failure.launch error).exitStatus
      object.steady
    exact Transcript.took_append_iff.mpr ⟨object.took, words⟩
  | false => exact took_conclude (complaintLines error) _ steady

variable [Host ω] [Host υ] {order : Order}

/-- The exit status tells how the launch ended, unless the program is aborted, for which the launch
has to fail and the words on it must not be taken. -/
theorem value_execute (order : Order) (state : Reporter δ × ω) :
    let launch := (Launch.harness order.settings order.tokens).run.run state
    let step := (execute order).run state
    step.value = statusOf launch.value ∨
      step.value = abortStatus ∧ (∃ error, launch.value = .error error) ∧
        ¬ step.events.Took .err := by
  intro launch step
  cases ended : launch.value with
  | ok result => exact .inl (execute_run_of_ok ended).1
  | error error =>
    obtain ⟨value, events⟩ := execute_run_of_error ended
    -- After an error the status is the one it calls for, unless the words on it cannot be written.
    refine (value_fail order.json error launch.state).imp value.trans ?_
    rintro ⟨aborted, untaken⟩
    refine ⟨value.trans aborted, ⟨error, rfl⟩, fun took => untaken ?_⟩
    rw [show step.events = _ from events, Transcript.took_log_cons] at took
    exact (Transcript.took_append_iff.mp took).2

/-- An error stream that never fails takes all that it is offered while an order is carried out,
whatever becomes of the results. -/
theorem took_execute (order : Order) {state : Reporter δ × ω}
    (steady : Sink.Steady (state.1.sink .err)) :
    ((execute order).run state).events.Took .err := by
  -- The launch itself serves the stream, and so does what is said about its error.
  have launched := Launch.serves_harness order.settings order.tokens state steady
  cases ended : ((Launch.harness order.settings order.tokens).run.run state).value with
  | ok result =>
    rw [(execute_run_of_ok ended).2, Transcript.took_log_cons]
    exact launched.took
  | error error =>
    rw [(execute_run_of_error ended).2, Transcript.took_log_cons]
    exact Transcript.took_append_iff.mpr
      ⟨launched.took, took_fail order.json error launched.steady⟩

/-- Over an error stream that never fails, the exit status tells how the launch ended. -/
theorem value_execute_of_steady {state : Reporter δ × ω}
    (steady : Sink.Steady (state.1.sink .err)) :
    ((execute order).run state).value =
      statusOf ((Launch.harness order.settings order.tokens).run.run state).value :=
  (value_execute order state).resolve_right fun aborted => aborted.2.2 (took_execute order steady)

/-- Over sinks that never fail, the exit status is the same on every machine that lists the scripts
alike. -/
theorem value_execute_of_alike {reporter : Reporter δ} (steady : reporter.Steady) {world : ω}
    {other : υ} (alike : Host.entries other order.settings.scriptsDir =
      Host.entries world order.settings.scriptsDir) :
    ((execute order).run (reporter, other)).value =
      ((execute order).run (reporter, world)).value := by
  rw [value_execute_of_steady (steady.sink .err), value_execute_of_steady (steady.sink .err)]
  cases ended : ((Launch.harness order.settings order.tokens).run.run (reporter, world)).value with
  | error error => rw [Launch.harness_error_of_alike steady ended alike]
  | ok result =>
    cases again :
        ((Launch.harness order.settings order.tokens).run.run (reporter, other)).value with
    | ok another => rfl
    | error error =>
      -- What fails on the one machine fails on the other one.
      have failed := Launch.harness_error_of_alike steady again alike.symm
      rw [failed] at ended
      cases ended

/-- Over sinks that never fail, an order whose launch fails complains about the error. -/
theorem complains_execute {state : Reporter δ × ω} (steady : state.1.Steady) {error : LaunchError}
    (fails : ((Launch.harness order.settings order.tokens).run.run state).value = .error error)
    (filter : LogFilter) (stamp : String) :
    let step := (execute order).run state
    Complains order.json error step.value (step.events.shown filter stamp .out)
      (step.events.shown filter stamp .err) := by
  intro step
  have status : step.value = (Failure.launch error).exitStatus := by
    rw [show step.value = _ from value_execute_of_steady (steady.sink .err), fails]
    rfl
  obtain ⟨records, all⟩ := events_execute_of_error steady fails
  have happened : step.events = _ := all
  -- Nothing was launched, so all of the results are from the launcher.
  have results : step.events.shown filter stamp .out =
      if order.json then Reporter.lineBytes (failureJson error).render else [] := by
    rw [Transcript.shown_of_launches_eq_nil filter stamp (by simp [happened]), happened]
    cases order.json <;> simp
  rw [status]
  refine ⟨?words, ?object, ?plain⟩
  -- The words stand behind the log records, on the stream of both.
  case words =>
    refine ⟨Transcript.shown (records.map .log) filter stamp .err, ?_⟩
    rw [happened, Transcript.shown_append, Transcript.shown_append, Transcript.shown_writing,
      Transcript.shown_writing]
    by_cases usage : (Failure.launch error).exitStatus = usageStatus <;>
      simp [complaintLines, usage]
  case object =>
    intro json
    rw [results, json]
    exact ⟨failureJson error, _, Json.isLine_render _, rfl, rfl, rfl, rfl⟩
  case plain =>
    intro text
    rw [results, text]
    rfl

/-- The program ends with zero exactly if the launch succeeds. Over an error stream that never
fails, whatever becomes of the results, it ends with two exactly if the launch ends by a mistake on
the command line, and with one exactly if it ends by any other error. Over other error streams an
error may abort the program instead, but only if the stream does not take the words on it. These are
the statuses of a failure under any remarks, and one is that of any other fault. Over two sinks that
never fail, the status does not depend on how the children end, and an error is told of
accordingly. -/
theorem exit_status_tells_launch (environment : Arguments.Environment) (arguments : List Bytes)
    {order : Order} (read : Harness.order environment arguments = .ok order) (out err : δ)
    (world : ω) :
    let launch := (Launch.harness order.settings order.tokens :
      Launching δ ω (Option Report)).run.run ({ json := order.json, out, err }, world)
    let step := start environment arguments out err world
    (step.value = 0 ↔ ∃ result, launch.value = .ok result) ∧
    (Sink.Steady err →
      (step.value = 2 ↔ ∃ error, launch.value = .error error ∧ error.isUsage = true) ∧
      (step.value = 1 ↔ ∃ error, launch.value = .error error ∧ error.isUsage = false)) ∧
    (∀ error, launch.value = .error error →
      step.value = (if error.isUsage then 2 else 1) ∨
        step.value = abortStatus ∧ ¬ step.events.Took .err) ∧
    (∀ (contexts : List String) (error : LaunchError),
      (contexts.foldr Failure.within (.launch error)).exitStatus =
        if error.isUsage then 2 else 1) ∧
    (∀ (contexts : List String) (text : String),
      (contexts.foldr Failure.within (.other text)).exitStatus = 1) ∧
    (Sink.Steady out → Sink.Steady err →
      (∀ (υ : Type) [Host υ] (other : υ), Host.entries other order.settings.scriptsDir =
          Host.entries world order.settings.scriptsDir →
        (start environment arguments out err other).value = step.value) ∧
      ∀ error filter stamp, launch.value = .error error →
        step.value = (if error.isUsage then 2 else 1) ∧
        Complains order.json error step.value (step.events.shown filter stamp .out)
          (step.events.shown filter stamp .err)) := by
  intro launch step
  have carried : step = (execute order).run ({ json := order.json, out, err }, world) :=
    start_of_read read out err world
  -- The status is the one that the launch calls for, or that of an abort for want of the words.
  have status : step.value = statusOf launch.value ∨
      step.value = abortStatus ∧ (∃ error, launch.value = .error error) ∧
        ¬ step.events.Took .err := carried ▸ value_execute order _
  have unaborted (steady : Sink.Steady err) : step.value = statusOf launch.value :=
    carried ▸ value_execute_of_steady steady
  refine ⟨?success, ?told, ?failure, ?launchError, ?otherFault, ?visible⟩
  case success =>
    rw [← statusOf_eq_zero_iff]
    rcases status with own | ⟨aborted, ⟨error, failed⟩, -⟩
    · rw [own]
    · -- Neither status is zero.
      rw [aborted, failed]
      cases kind : error.isUsage <;> simp [abortStatus, kind]
  case told =>
    intro steady
    rw [unaborted steady]
    exact ⟨statusOf_eq_iff launch.value true, statusOf_eq_iff launch.value false⟩
  case failure =>
    intro error failed
    refine status.imp (fun own => ?_) fun aborted => ⟨aborted.1, aborted.2.2⟩
    rw [own, failed, statusOf_error]
  case launchError =>
    intro contexts error
    exact Failure.exitStatus_foldr_within contexts (.launch error)
  case otherFault =>
    intro contexts text
    exact Failure.exitStatus_foldr_within contexts (.other text)
  case visible =>
    intro steadyOut steadyErr
    have steady := Reporter.Steady.ofSinks order.json steadyOut steadyErr
    refine ⟨fun υ _ other alike => ?_, fun error filter stamp fails => ?_⟩
    · -- The other machine may run its children to any end, as it need only list the scripts alike.
      rw [carried, start_of_read read out err other]
      exact value_execute_of_alike steady alike
    · refine ⟨(unaborted steadyErr).trans (fails ▸ statusOf_error error), ?_⟩
      rw [carried]
      exact complains_execute steady fails filter stamp

/-- A missing argument, told of in JSON mode. -/
theorem exit_status_of_missing_script :
    let order : Order := { settings := {}, json := true, tokens := ["GenMS"] }
    let arguments := ["--json", "GenMS"].map utf8
    let step := start [] arguments ({} : BoundedSink) {} ({} : Launch.Rehearsal)
    Harness.order [] arguments = .ok order ∧ Sink.Steady ({} : BoundedSink) ∧ step.value = 2 ∧
      ∀ filter stamp, Complains true (.missingArgument "script_name") 2
        (step.events.shown filter stamp .out) (step.events.shown filter stamp .err) := by
  intro order arguments step
  have steady := BoundedSink.steady_unlimited
  have read : Harness.order [] arguments = .ok order := by decide +kernel
  obtain ⟨-, -, -, -, -, visible⟩ := exit_status_tells_launch [] arguments read
    ({} : BoundedSink) {} ({} : Launch.Rehearsal)
  -- The second positional is missing; that much is computed, and the rest is the theorem.
  have fails : ((Launch.harness order.settings order.tokens :
      Launching BoundedSink Launch.Rehearsal (Option Report)).run.run
        ({ json := order.json, out := {}, err := {} }, {})).value =
      .error (.missingArgument "script_name") := by decide +kernel
  have told := fun filter stamp => (visible steady steady).2 _ filter stamp fails
  have status : step.value = 2 := (told .standard "").1
  refine ⟨read, steady, status, fun filter stamp => ?_⟩
  rw [← status]
  exact (told filter stamp).2

/-- An error stream without room for the words on a missing argument aborts the program, so that its
status is not that of a mistake on the command line. -/
theorem exit_status_lost_with_last_words :
    let order : Order := { settings := {}, json := false, tokens := ["GenMS"] }
    let arguments := ["GenMS"].map utf8
    let full : BoundedSink := { room := some 0 }
    let launch := (Launch.harness order.settings order.tokens :
      Launching BoundedSink Launch.Rehearsal (Option Report)).run.run
        ({ json := order.json, out := {}, err := full }, {})
    let step := start [] arguments {} full ({} : Launch.Rehearsal)
    Harness.order [] arguments = .ok order ∧
      launch.value = .error (.missingArgument "script_name") ∧
      (LaunchError.missingArgument "script_name").isUsage = true ∧ step.value = 101 := by
  -- One short run: the error comes first, and its words find no room.
  intro order arguments full launch step
  exact ⟨by decide +kernel, by decide +kernel, rfl, by decide +kernel⟩

end Harness

end Program

end Launcher
