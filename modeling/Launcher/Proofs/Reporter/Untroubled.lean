import Launcher.Proofs.Reporter.Forthright
import Launcher.Proofs.Reporter.Steady

/-! What the reporter does over any sinks, as long as nothing fails: if no failure is held back in
the end, everything that happened is what happens over sinks that never fail. -/

namespace Launcher.Reporter

variable {δ : Type}

/-- A step that holds failures back: if none is held back behind it, none was before, and what
happened is what was foreseen. -/
structure Untroubled (before : Reporter δ) (events : Transcript) (step : Step (Reporter δ) Unit) :
    Prop where
  /-- The mode stays the same. -/
  json : step.state.json = before.json
  /-- What was held back stays so. -/
  calm : step.state.held = none → before.held = none
  /-- Without a failure, the events are those foreseen. -/
  events : step.state.held = none → step.events = events

/-- Doing nothing is untroubled. -/
theorem untroubled_pure (before : Reporter δ) :
    Untroubled before [] ((pure () : Action (Reporter δ) Unit).run before) :=
  ⟨rfl, id, fun _ => rfl⟩

/-- An attempt whose failure is held back is untroubled if it is known what it does when it
succeeds. -/
theorem untroubled_holding {attempt : Printing δ Unit} (forthright : Forthright attempt)
    {before : Reporter δ} {events : Transcript}
    (succeeds : (attempt.run.run before).value = .ok () →
      (attempt.run.run before).events = events) :
    Untroubled before events ((holding attempt).run before) := by
  rw [holding_run]
  -- Nothing held back means that nothing was before, and that the attempt did not fail.
  have calm : ((attempt.run.run before).state.held.or
      (causeOf (attempt.run.run before).value) = none) →
        before.held = none ∧ (attempt.run.run before).value = .ok () := by
    intro silent
    obtain ⟨start, sound⟩ := Option.or_eq_none_iff.mp silent
    refine ⟨(forthright.held before).symm.trans start, ?_⟩
    rw [← resultOf_causeOf (attempt.run.run before).value, sound]
    rfl
  refine ⟨forthright.mode before, fun silent => (calm silent).1, fun silent => ?_⟩
  obtain ⟨start, ended⟩ := calm silent
  simp only [ended, succeeds ended, heldRemarks, List.append_nil]

variable [Sink δ]

/-- Announcing a run is untroubled. -/
theorem untroubled_started (index : Nat) (before : Reporter δ) :
    Untroubled before (delivery (progressStream before.json) [startedLine index])
      ((started index).run before) := by
  -- The announcement is one line, and without a failure its events are those of a delivery.
  rw [started_run]
  exact untroubled_holding (.deliver _ _) events_deliver

/-- Telling of the end of a run is untroubled. -/
theorem untroubled_finished (iteration : Iteration) (before : Reporter δ) :
    Untroubled before (endEvents iteration) ((finished iteration).run before) := by
  unfold finished endEvents failureLines
  -- Only a failed launch is told of.
  cases iteration.outcome with
  | launchFailed message => exact untroubled_holding (.writeLine _ _) events_writeLine
  | exited code | signaled signal => exact untroubled_pure before

/-- A round of a repetition is untroubled. -/
theorem untroubled_round (command : CommandLine) (index : Nat) (child : Child)
    (before : Reporter δ) :
    Untroubled before (roundEvents before.json command index child)
      ((Run.round observer command index child).run before) := by
  have told := untroubled_started index before
  have heard := untroubled_finished (Run.record command index child)
    ((started index).run before).state
  -- A failure that is held back stays so: where none is at the end, there was none in between.
  rw [Run.round_run]
  refine ⟨heard.json.trans told.json, fun silent => told.calm (heard.calm silent),
    fun silent => ?_⟩
  simp only [observer, told.events (heard.calm silent), heard.events silent, roundEvents]

/-- The rounds of a repetition are untroubled. -/
theorem untroubled_rounds (command : CommandLine) (index : Nat) (run : List Child)
    (before : Reporter δ) :
    Untroubled before (roundsEvents before.json command index run)
      ((Run.rounds observer command index run).run before) := by
  -- A failure in any round would still be held back behind the last one.
  induction run generalizing index before with
  | nil => exact untroubled_pure before
  | cons child rest ih =>
    have first := untroubled_round command index child before
    have later := ih (index + 1) ((Run.round observer command index child).run before).state
    rw [first.json] at later
    rw [Run.rounds, Action.run_bind]
    refine ⟨later.json.trans first.json, fun silent => first.calm (later.calm silent),
      fun silent => ?_⟩
    simp only [first.events (later.calm silent), later.events silent, roundsEvents]

end Launcher.Reporter
