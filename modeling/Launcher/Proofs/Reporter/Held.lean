import Launcher.Proofs.Reporter.Forthright
import Mathlib.Data.List.DropRight

/-! Failures that the reporter holds back: the next report tells of the first one, and no other
call has anything to do with them. -/

namespace Launcher.Reporter

variable {δ : Type}

/-- What a reporter can be asked for. -/
inductive Call where
  /-- To show the command that is about to be run. -/
  | command (command : CommandLine)
  /-- To announce a run. -/
  | started (index : Nat)
  /-- To tell of the end of a run. -/
  | finished (iteration : Iteration)
  /-- To print a report. -/
  | summary (report : Report)
  /-- To print how a build ended. -/
  | buildResult (outcome : Outcome)
  /-- To print the names of scripts. -/
  | scripts (names : List String)
  /-- To print a usage line. -/
  | usage (text : String)

namespace Call

/-- Whether the reporter is asked for a report. -/
def isSummary : Call → Bool
  | .summary _ => true
  | .command _ | .started _ | .finished _ | .buildResult _ | .scripts _ | .usage _ => false

/-- The only call for a report is that for a given one. -/
theorem eq_summary {call : Call} (summary : call.isSummary) :
    ∃ report, call = .summary report := by
  -- Of all calls, only a summary is one.
  cases call with
  | summary report => exact ⟨report, rfl⟩
  | _ => simp [isSummary] at summary

/-- Whether the reporter is asked to tell of the progress of a repetition. -/
def isProgress : Call → Bool
  | .started _ | .finished _ => true
  | .command _ | .summary _ | .buildResult _ | .scripts _ | .usage _ => false

variable [Sink δ]

/-- Has a reporter do what it is asked for. -/
def act : Call → Action (Reporter δ) (Except Cause Unit)
  | .command shown => (Reporter.command shown).run
  | .started index => do
    Reporter.started index
    return .ok ()
  | .finished iteration => do
    Reporter.finished iteration
    return .ok ()
  | .summary report => (Reporter.summary report).run
  | .buildResult outcome => (Reporter.buildResult outcome).run
  | .scripts names => (Reporter.scripts names).run
  | .usage text => (Reporter.usage text).run

/-- Telling of progress gives no error, and its first failure is held back unless one was before. -/
theorem act_of_progress {call : Call} (progress : call.isProgress) (reporter : Reporter δ) :
    let step := call.act.run reporter
    step.value = .ok () ∧ step.state.json = reporter.json ∧
      step.state.held = reporter.held.or step.events.firstFailure := by
  -- A call of this kind is an action without a result of its own.
  have kept : ∀ action : Action (Reporter δ) Unit,
      (action.run reporter).state.json = reporter.json ∧
        (action.run reporter).state.held =
          reporter.held.or (action.run reporter).events.firstFailure →
      let step := (do action; return .ok () : Action (Reporter δ) (Except Cause Unit)).run reporter
      step.value = .ok () ∧ step.state.json = reporter.json ∧
        step.state.held = reporter.held.or step.events.firstFailure := by
    intro action held
    simpa using held
  cases call with
  | started index =>
    refine kept _ ?_
    rw [started_run]
    exact holding_step (Forthright.deliver _ _) reporter
  | finished iteration =>
    refine kept _ ?_
    unfold Reporter.finished
    -- Nothing is told of a program that ran, so nothing can fail.
    cases iteration.outcome with
    | launchFailed message => exact holding_step (Forthright.writeLine _ _) reporter
    | exited code => exact ⟨rfl, Option.or_none.symm⟩
    | signaled signal => exact ⟨rfl, Option.or_none.symm⟩
  | _ => simp [isProgress] at progress

/-- What neither tells of progress nor asks for a report is forthright. -/
theorem forthright {call : Call} (noSummary : ¬ call.isSummary) (noProgress : ¬ call.isProgress) :
    Forthright (ExceptT.mk call.act : Printing δ Unit) := by
  -- A call is forthright because delivering lines is. The mode decides which lines these are, or on
  -- which stream, except for a build. Progress and summaries look at what is held back.
  cases call with
  | command shown =>
    exact Forthright.of_mode
      (fun json => deliver (progressStream json) [commandLine shown])
      (command_run shown) fun json => Forthright.deliver _ _
  | buildResult outcome => exact Forthright.deliver _ _
  | scripts names =>
    exact Forthright.of_mode (fun json => deliver .out (scriptLines json names))
      (scripts_run names) fun json => Forthright.deliver _ _
  | usage text =>
    exact Forthright.of_mode (fun json => deliver .out [usageLine json text])
      (usage_run text) fun json => Forthright.deliver _ _
  | started index => simp [isProgress] at noProgress
  | finished iteration => simp [isProgress] at noProgress
  | summary report => simp [isSummary] at noSummary

end Call

/-- A call, over sinks that may be others than before. -/
structure Visit (δ : Type) where
  /-- What the reporter is asked for. -/
  call : Call
  /-- The sink of results at that time. -/
  out : δ
  /-- The sink of failures at that time. -/
  err : δ

/-- A call as it is seen from outside. -/
structure Entry where
  /-- What the reporter was asked for. -/
  call : Call
  /-- What happened to the streams. -/
  events : Transcript

/-- The entries behind the last report. -/
def sinceSummary (log : List Entry) : List Entry :=
  log.rtakeWhile fun entry => !entry.call.isSummary

/-- The first failure to tell of progress behind the last report. -/
def pending (log : List Entry) : Option Cause :=
  ((sinceSummary log).filter (·.call.isProgress)).findSome? (·.events.firstFailure)

/-- A report settles what was pending, and telling of progress adds to it. -/
theorem pending_append_singleton (log : List Entry) (entry : Entry) :
    pending (log ++ [entry]) =
      if entry.call.isSummary then none
      else if entry.call.isProgress then (pending log).or entry.events.firstFailure
      else pending log := by
  by_cases isSummary : entry.call.isSummary
  · -- Nothing lies behind a report that was just printed.
    have none : sinceSummary (log ++ [entry]) = [] :=
      List.rtakeWhile_concat_neg _ _ _ (by simp [isSummary])
    rw [if_pos isSummary, pending, none]
    rfl
  · -- Any other entry is one more behind the last report.
    have more : sinceSummary (log ++ [entry]) = sinceSummary log ++ [entry] :=
      List.rtakeWhile_concat_pos _ _ _ (by simp [isSummary])
    rw [if_neg isSummary, pending, more, List.filter_append, List.findSome?_append]
    by_cases isProgress : entry.call.isProgress
    · rw [if_pos isProgress, List.filter_singleton]
      simp [pending, isProgress]
    · rw [if_neg isProgress]
      simp [pending, isProgress]

variable [Sink δ]

/-- Has a reporter do what it is asked for, over the sinks of the time. -/
def Visit.act (visit : Visit δ) : Action (Reporter δ) (Except Cause Unit) := fun reporter =>
  visit.call.act.run { reporter with out := visit.out, err := visit.err }

/-- A call as it is seen from outside, over the sinks of the time. -/
def Visit.entry (visit : Visit δ) : Action (Reporter δ) Entry := fun reporter =>
  let step := visit.act.run reporter
  ⟨⟨visit.call, step.events⟩, step.events, step.state⟩

/-- Has a reporter do one thing after the other, and keeps a log of it. -/
def history : List (Visit δ) → Action (Reporter δ) (List Entry)
  | [] => pure []
  | visit :: rest => do
    let entry ← visit.entry
    let later ← history rest
    return entry :: later

/-- A report prints nothing but tells of the failure that is held back, and holds it no longer. -/
theorem Visit.act_summary_of_some {visit : Visit δ} {report : Report} {reporter : Reporter δ}
    {cause : Cause} (summary : visit.call = .summary report) (held : reporter.held = some cause) :
    visit.act.run reporter =
      ⟨.error cause, [], { reporter with out := visit.out, err := visit.err, held := none }⟩ := by
  obtain ⟨call, out, err⟩ := visit
  obtain rfl : call = .summary report := summary
  -- Replacing the sinks leaves what is held back.
  have there : ({ reporter with out, err } : Reporter δ).held = some cause := held
  exact summary_run_of_some there report

/-- A report is printed like anything else if no failure is held back, and none is afterwards. -/
theorem Visit.act_summary_of_none {visit : Visit δ} {report : Report} {reporter : Reporter δ}
    (summary : visit.call = .summary report) (calm : reporter.held = none) :
    let step := visit.act.run reporter
    step.state.json = reporter.json ∧ step.state.held = none ∧
      step.value = resultOf step.events.firstFailure ∧
      (step.value = .ok () →
        step.events.written .out = (reportLines reporter.json report).flatMap lineBytes) := by
  obtain ⟨call, out, err⟩ := visit
  obtain rfl : call = .summary report := summary
  intro step
  -- Replacing the sinks holds nothing back.
  have there : ({ reporter with out, err } : Reporter δ).held = none := calm
  have same : step = _ := summary_run_of_none there report
  -- With nothing held back, the summary is delivered like any other lines.
  have plain : Forthright (deliver .out (reportLines reporter.json report) : Printing δ Unit) :=
    Forthright.deliver _ _
  rw [same]
  exact ⟨plain.mode _, (plain.held _).trans calm, plain.value _, written_deliver⟩

/-- What is held back is what was pending before a call, and then what is pending behind it. -/
theorem Visit.held_eq_pending {visit : Visit δ} {reporter : Reporter δ} {log : List Entry}
    (before : reporter.held = pending log) :
    (visit.entry.run reporter).state.held =
      pending (log ++ [(visit.entry.run reporter).value]) := by
  rw [pending_append_singleton]
  show (visit.act.run reporter).state.held = if visit.call.isSummary then none
    else if visit.call.isProgress then (pending log).or (visit.act.run reporter).events.firstFailure
    else pending log
  by_cases summary : visit.call.isSummary
  · -- A report settles what was held back, whether it fails with it or finds nothing.
    obtain ⟨report, asked⟩ := Call.eq_summary summary
    rw [if_pos summary]
    cases held : reporter.held with
    | none => exact (act_summary_of_none asked held).2.1
    | some cause => rw [act_summary_of_some asked held]
  · rw [if_neg summary]
    -- Of the other calls, only those that tell of progress hold something back.
    by_cases progress : visit.call.isProgress
    · rw [if_pos progress, ← before]
      exact (Call.act_of_progress progress _).2.2
    · rw [if_neg progress, ← before]
      exact (Call.forthright summary progress).held _

/-- No call changes the mode. -/
theorem Visit.json_eq (visit : Visit δ) (reporter : Reporter δ) :
    (visit.entry.run reporter).state.json = reporter.json := by
  show (visit.act.run reporter).state.json = reporter.json
  -- A call is a summary, or it tells of progress, or it is forthright.
  by_cases summary : visit.call.isSummary
  · obtain ⟨report, asked⟩ := Call.eq_summary summary
    cases held : reporter.held with
    | none => exact (act_summary_of_none asked held).1
    | some cause => rw [act_summary_of_some asked held]
  · by_cases progress : visit.call.isProgress
    · exact (Call.act_of_progress progress _).2.1
    · exact (Call.forthright summary progress).mode _

/-- Along every history, what is held back is what is pending, and the mode stays the same. -/
theorem history_held_eq_pending (visits : List (Visit δ)) {reporter : Reporter δ}
    {log : List Entry} (before : reporter.held = pending log) :
    let step := (history visits).run reporter
    step.state.held = pending (log ++ step.value) ∧ step.state.json = reporter.json := by
  induction visits generalizing reporter log with
  | nil => simpa [history] using before
  | cons visit rest ih =>
    -- The first call carries the invariant over to the others.
    have later := ih (visit.held_eq_pending before)
    simpa [history, visit.json_eq] using later

/-- Whatever a reporter was asked for before, over whatever sinks, a report tells of the first
failure to tell of progress since the last report, in place of printing anything; every other
failure is told of at once, by the call that meets it. -/
theorem summary_tells_first_failure (json : Bool) (out err : δ) (earlier : List (Visit δ))
    (visit : Visit δ) :
    let before := (history earlier).run { json, out, err }
    let step := visit.act.run before.state
    before.state.held = pending before.value ∧
    (∀ report, visit.call = .summary report → step.state.held = none ∧
      (∀ cause, pending before.value = some cause → step = ⟨.error cause, [],
        { before.state with out := visit.out, err := visit.err, held := none }⟩) ∧
      (pending before.value = none → step.value = resultOf step.events.firstFailure ∧
        (step.value = .ok () → step.events.written .out =
          (reportLines json report).flatMap lineBytes))) ∧
    (visit.call.isProgress → step.value = .ok () ∧
      step.state.held = (pending before.value).or step.events.firstFailure) ∧
    (¬ visit.call.isSummary → ¬ visit.call.isProgress →
      step.value = resultOf step.events.firstFailure ∧
      step.state.held = pending before.value ∧
      ∀ held, visit.act.run { before.state with held } =
        ⟨step.value, step.events, { step.state with held }⟩) := by
  intro before step
  -- A new reporter holds nothing back, and nothing is pending before the first call.
  have fresh : ({ json, out, err } : Reporter δ).held = pending [] := rfl
  obtain ⟨held, mode⟩ : before.state.held = pending before.value ∧ before.state.json = json :=
    history_held_eq_pending earlier fresh
  refine ⟨held, fun report summary => ?_, fun progress => ?_, fun noSummary noProgress => ?_⟩
  · -- What the report does depends on what is held back, which is what is pending.
    cases found : before.state.held with
    | none =>
      have silent : pending before.value = none := held.symm.trans found
      obtain ⟨-, released, told, printed⟩ := Visit.act_summary_of_none summary found
      rw [mode] at printed
      exact ⟨released, by simp [silent], fun _ => ⟨told, printed⟩⟩
    | some cause =>
      have waiting : pending before.value = some cause := held.symm.trans found
      have same : step = _ := Visit.act_summary_of_some summary found
      refine ⟨by rw [same], fun other first => ?_, by simp [waiting]⟩
      obtain rfl : cause = other := Option.some_inj.mp (waiting.symm.trans first)
      exact same
  · rw [← held]
    obtain ⟨told, -, kept⟩ := Call.act_of_progress progress
      { before.state with out := visit.out, err := visit.err }
    exact ⟨told, kept⟩
  · have plain : Forthright (ExceptT.mk visit.call.act : Printing δ Unit) :=
      Call.forthright noSummary noProgress
    refine ⟨plain.value _, (plain.held _).trans held, fun other => ?_⟩
    exact plain.frame { before.state with out := visit.out, err := visit.err } other

end Launcher.Reporter
