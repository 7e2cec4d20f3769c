import Launcher.Launch
import Launcher.Proofs.Reporter.Printing
import Launcher.Proofs.Run.Repetition

/-! Whatever the reporter prints, it launches nothing, and its transcript tells whether a delivery
succeeded. -/

namespace Launcher

open Reporter

variable {σ ε δ α β : Type}

/-- From whatever state it starts, an attempt launches nothing. -/
def Quiet (attempt : ExceptT ε (Action σ) α) : Prop :=
  ∀ state, (attempt.run.run state).events.launches = []

namespace Quiet

/-- Attempts in a row are quiet if each of them is. -/
theorem bind {attempt : ExceptT ε (Action σ) α} {next : α → ExceptT ε (Action σ) β}
    (first : Quiet attempt) (later : ∀ value, Quiet (next value)) : Quiet (attempt >>= next) := by
  intro state
  -- What comes behind counts only if the first attempt succeeds.
  cases ended : (attempt.run.run state).value with
  | ok value =>
    rw [Action.run_bind_of_ok ended, Transcript.launches_append, first state, later value]
    rfl
  | error cause =>
    have same := congrArg (fun step => step.events.launches)
      (Action.run_bind_of_error ended next)
    exact same.trans (first state)

/-- Trying nothing is quiet. -/
theorem pure (value : α) : Quiet (pure value : ExceptT ε (Action σ) α) := fun _ => rfl

/-- An attempt that amounts to a quiet one from each state is quiet. -/
theorem of_run {attempt : ExceptT ε (Action σ) α} {other : σ → ExceptT ε (Action σ) α}
    (same : ∀ state, attempt.run.run state = (other state).run.run state)
    (quiet : ∀ state, Quiet (other state)) : Quiet attempt := by
  -- In each state the attempt is one that starts no program.
  intro state
  rw [same]
  exact quiet state state

/-- Holding a failure back adds no launch to those of the attempt. -/
theorem holding {attempt : Printing δ Unit} (quiet : Quiet attempt) (reporter : Reporter δ) :
    ((Reporter.holding attempt).run reporter).events.launches = [] := by
  -- All that may come behind the attempt is a record of its failure.
  have remark : ∀ held result, (heldRemarks held result).launches = [] := by
    intro held result
    cases result <;> cases held <;> rfl
  rw [holding_run, Transcript.launches_append, quiet, remark]
  rfl

variable [Sink δ]

/-- Writing a line is quiet. -/
theorem writeLine (stream : Stream) (text : String) :
    Quiet (Reporter.writeLine stream text : Printing δ Unit) := fun _ => rfl

/-- Asking for delivery is quiet. -/
theorem flush (stream : Stream) : Quiet (Reporter.flush stream : Printing δ Unit) := fun _ => rfl

/-- Writing lines is quiet. -/
theorem writeLines (stream : Stream) (texts : List String) :
    Quiet (Reporter.writeLines stream texts : Printing δ Unit) := by
  -- The lines are written one behind the other, and none of them starts a program.
  induction texts with
  | nil => exact pure ()
  | cons text rest ih => exact (writeLine stream text).bind fun _ => ih

/-- Delivering lines is quiet. -/
theorem deliver (stream : Stream) (texts : List String) :
    Quiet (Reporter.deliver stream texts : Printing δ Unit) :=
  (writeLines stream texts).bind fun _ => flush stream

/-- Showing a command is quiet. -/
theorem command (command : CommandLine) : Quiet (Reporter.command command : Printing δ Unit) :=
  of_run (command_run command) fun _ => deliver _ _

/-- Printing a report is quiet, whether or not a failure takes its place. -/
theorem summary (report : Report) : Quiet (Reporter.summary report : Printing δ Unit) := by
  intro reporter
  -- A failure that is held back takes the place of the report.
  cases held : reporter.held with
  | none =>
    rw [summary_run_of_none held]
    exact deliver _ _ reporter
  | some cause => rw [summary_run_of_some held, Transcript.launches_nil]

/-- Printing the names of scripts is quiet. -/
theorem scripts (names : List String) : Quiet (Reporter.scripts names : Printing δ Unit) :=
  of_run (scripts_run names) fun _ => deliver _ _

/-- Printing a usage line is quiet. -/
theorem usage (text : String) : Quiet (Reporter.usage text : Printing δ Unit) :=
  of_run (usage_run text) fun _ => deliver _ _

/-- Printing how a build ended is quiet. -/
theorem buildResult (outcome : Outcome) :
    Quiet (Reporter.buildResult outcome : Printing δ Unit) :=
  deliver _ _

end Quiet

namespace Reporter

variable [Sink δ]

/-- Whatever the reporter is told about a repetition, it launches nothing. -/
theorem launches_hear (notice : Notice) (reporter : Reporter δ) :
    ((observer.hear notice).run reporter).events.launches = [] := by
  cases notice with
  | started index =>
    show ((started index).run reporter).events.launches = []
    rw [started_run]
    exact (Quiet.deliver _ _).holding reporter
  | finished iteration =>
    show ((finished iteration).run reporter).events.launches = []
    unfold finished
    -- Only a failed launch is told of.
    cases iteration.outcome with
    | launchFailed message => exact (Quiet.writeLine _ _).holding reporter
    | exited code | signaled signal => rfl

/-- Writing lines asks for no delivery. -/
theorem flush_not_mem_writeLines (stream other : Stream) (failure : Option Cause)
    (texts : List String) (reporter : Reporter δ) :
    .flush other failure ∉ ((writeLines stream texts).run.run reporter).events := by
  -- Each line is an event of its own, and none behind the first that fails.
  induction texts generalizing reporter with
  | nil => simp [writeLines]
  | cons text rest ih =>
    -- A line is written without a flush.
    have line : .flush other failure ∉ ((writeLine stream text).run.run reporter).events := by
      simp [writeLine_run]
    cases ended : ((writeLine stream text).run.run reporter).value with
    | ok value =>
      rw [writeLines, Action.run_bind_of_ok ended]
      simp only [List.mem_append, not_or]
      exact ⟨line, ih _⟩
    | error cause =>
      rw [writeLines, Action.run_bind_of_error ended]
      exact line

/-- A delivery that fails does not end in a successful one. -/
theorem flush_not_mem_of_error {stream : Stream} {texts : List String} {reporter : Reporter δ}
    {cause : Cause} (fails : ((deliver stream texts).run.run reporter).value = .error cause)
    (other : Stream) : .flush other none ∉ ((deliver stream texts).run.run reporter).events := by
  have written := flush_not_mem_writeLines stream other none texts reporter
  cases ended : ((writeLines stream texts).run.run reporter).value with
  | ok value =>
    -- The lines were written, so asking for delivery is what failed.
    rw [deliver, Action.run_bind_of_ok ended] at fails ⊢
    have broken : ∀ failure : Option Cause, resultOf failure = .error cause → failure ≠ none := by
      rintro failure failed rfl
      cases failed
    have undelivered := broken _ fails
    simp only [List.mem_append, not_or, flush_run, List.mem_singleton]
    refine ⟨written, fun same => undelivered ?_⟩
    exact (Event.flush.inj same).2.symm
  | error earlier =>
    -- Delivery was not even asked for.
    rw [deliver, Action.run_bind_of_error ended]
    exact written

end Reporter

end Launcher
