import Launcher.Launch
import Launcher.Proofs.Reporter.Room
import Launcher.Proofs.Run.Rounds

/-! What the reporter gets across of the progress of a repetition: a failure is held back, and the
repetition goes on. -/

namespace Launcher.Reporter

/-- A step prints a load and holds back the failure to do so, if no other was held back before. -/
structure Advances (load : Load) (before : Reporter BoundedSink)
    (step : Step (Reporter BoundedSink) Unit) : Prop where
  /-- The load takes up its room, and nothing else changes but what is held back. -/
  state : step.state = { before.filled load with held := step.state.held }
  /-- Each stream takes what there is room for. -/
  written : ∀ stream, step.events.written stream = (before.sink stream).fitting (load stream)
  /-- If nothing is held back, there was room for everything. -/
  complete : step.state.held = none →
    before.held = none ∧ ∀ stream, (before.sink stream).fitting (load stream) = load stream
  /-- Sinks with room for everything leave nothing more to hold back. -/
  calm : before.Ample load → step.state.held = before.held

namespace Advances

variable {before : Reporter BoundedSink} {first second : Load}

/-- The mode stays the same. -/
theorem json {step : Step (Reporter BoundedSink) Unit} (advances : Advances first before step) :
    step.state.json = before.json := by
  -- Filling sinks is all that happens, apart from what is held back.
  rw [advances.state]
  rfl

/-- Each sink has its part of the load take up its room. -/
theorem sink {step : Step (Reporter BoundedSink) Unit} (advances : Advances first before step)
    (stream : Stream) : step.state.sink stream = (before.sink stream).filled (first stream) := by
  -- Filling sinks is all that happens, apart from what is held back, which no sink knows of.
  rw [advances.state, ← sink_filled]
  cases stream <;> rfl

/-- Only what is written and what is left matters. -/
theorem of_same {step other : Step (Reporter BoundedSink) Unit}
    (advances : Advances first before step) (state : other.state = step.state)
    (written : ∀ stream, other.events.written stream = step.events.written stream) :
    Advances first before other := by
  -- The four parts look at nothing of a step but its state and what it wrote.
  refine ⟨?_, ?_, ?_, ?_⟩
  · rw [state]
    exact advances.state
  · intro stream
    rw [written, advances.written]
  · rw [state]
    exact advances.complete
  · rw [state]
    exact advances.calm

/-- Two steps in a row print both loads. -/
theorem followedBy {step later : Step (Reporter BoundedSink) Unit}
    (advances : Advances first before step) (more : Advances second step.state later) :
    Advances (first.followedBy second) before ⟨(), step.events ++ later.events, later.state⟩ := by
  refine ⟨?_, ?_, ?_, ?_⟩
  · -- Only what is held back at the end differs from the sinks being filled twice.
    have state := more.state
    rw [advances.state] at state
    rw [filled_followedBy]
    exact state
  · intro stream
    rw [Transcript.written_append, advances.written, more.written, advances.sink, Load.followedBy,
      BoundedSink.fitting_append]
  · intro quiet
    -- Nothing held back at the end means that nothing was held back in between either.
    obtain ⟨between, rest⟩ := more.complete quiet
    obtain ⟨start, all⟩ := advances.complete between
    refine ⟨start, fun stream => ?_⟩
    rw [Load.followedBy, BoundedSink.fitting_append, all, ← advances.sink, rest]
  · intro ample
    obtain ⟨head, tail⟩ := (ample_followedBy _ _ _).mp ample
    -- What is held back has nothing to do with the room that is left.
    have between : step.state.Ample second := by
      intro stream
      rw [advances.sink, ← sink_filled]
      exact tail stream
    exact (more.calm between).trans (advances.calm head)

end Advances

/-- Doing nothing prints nothing. -/
theorem advances_pure (before : Reporter BoundedSink) :
    Advances Load.empty before ((pure () : Action (Reporter BoundedSink) Unit).run before) := by
  -- Nothing is written, and that always fits.
  refine ⟨?_, ?_, ?_, fun _ => rfl⟩
  · rw [filled_empty]
    rfl
  · intro stream
    exact (BoundedSink.fitting_nil _).symm
  · intro quiet
    exact ⟨quiet, fun stream => BoundedSink.fitting_nil _⟩

/-- An attempt whose failure is held back prints what it prints otherwise. -/
theorem advances_holding {load : Load} {before : Reporter BoundedSink}
    {attempt : Printing BoundedSink Unit} (prints : Prints load before (attempt.run.run before)) :
    Advances load before ((holding attempt).run before) := by
  rw [holding_run]
  -- The attempt itself leaves alone what is held back.
  have kept : (attempt.run.run before).state.held = before.held := by
    rw [prints.state]
    rfl
  refine ⟨?_, ?_, ?_, ?_⟩
  · simp only [prints.state]
  · intro stream
    show Transcript.written (_ ++ _) stream = _
    rw [Transcript.written_append, written_heldRemarks, List.append_nil, prints.written]
  · -- Nothing held back means that the attempt did not fail either.
    intro quiet
    have silent : before.held.or (causeOf (attempt.run.run before).value) = none := kept ▸ quiet
    obtain ⟨start, succeeded⟩ := Option.or_eq_none_iff.mp silent
    refine ⟨start, prints.complete ?_⟩
    rw [← resultOf_causeOf (attempt.run.run before).value, succeeded]
    rfl
  · intro ample
    show (attempt.run.run before).state.held.or (causeOf (attempt.run.run before).value) = _
    rw [kept, prints.succeeds ample]
    exact Option.or_none

/-- What is printed of the end of a run: a line if it is recorded as a failed launch. -/
def failureLoad (iteration : Iteration) : Load :=
  match iteration.outcome with
  | .launchFailed message => Load.lines .err [failureLine iteration.index message]
  | .exited _ | .signaled _ => Load.empty

/-- What is printed of the progress of a repetition, in both modes. -/
def progressLoad (json : Bool) : List Iteration → Load
  | [] => Load.empty
  | iteration :: rest =>
    ((Load.lines (progressStream json) [startedLine iteration.index]).followedBy
      (failureLoad iteration)).followedBy (progressLoad json rest)

/-- Announcing a run prints a line. -/
theorem advances_started (index : Nat) (before : Reporter BoundedSink) :
    Advances (Load.lines (progressStream before.json) [startedLine index]) before
      ((started index).run before) := by
  -- The announcement is one line, delivered with its failure held back.
  rw [started_run]
  exact advances_holding (prints_deliver _ _ before)

/-- Telling of the end of a run prints a line if it is recorded as a failed launch. -/
theorem advances_finished (iteration : Iteration) (before : Reporter BoundedSink) :
    Advances (failureLoad iteration) before ((finished iteration).run before) := by
  unfold finished failureLoad
  -- Only a failed launch is told of.
  cases iteration.outcome with
  | launchFailed message => exact advances_holding (prints_writeLine _ _ before)
  | exited code => exact advances_pure before
  | signaled signal => exact advances_pure before

/-- A round prints what there is to tell of its run. -/
theorem advances_round (command : CommandLine) (index : Nat) (child : Child)
    (before : Reporter BoundedSink) :
    Advances ((Load.lines (progressStream before.json) [startedLine index]).followedBy
        (failureLoad (Run.record command index child))) before
      ((Run.round observer command index child).run before) := by
  have told := (advances_started index before).followedBy
    (advances_finished (Run.record command index child) _)
  -- The launch and the remarks around it are events, but nothing that the launcher writes.
  refine told.of_same rfl fun stream => ?_
  simp [Run.round_run, observer]

/-- The rounds of a repetition print what there is to tell of its runs, one after the other. -/
theorem advances_rounds (command : CommandLine) (index : Nat) (run : List Child)
    (before : Reporter BoundedSink) :
    Advances (progressLoad before.json (Run.records command index run)) before
      ((Run.rounds observer command index run).run before) := by
  -- Each round leaves the mode alone, so the later ones print to the same streams.
  induction run generalizing index before with
  | nil => exact advances_pure before
  | cons child rest ih =>
    have first := advances_round command index child before
    have later := ih (index + 1) ((Run.round observer command index child).run before).state
    rw [first.json] at later
    exact first.followedBy later

end Launcher.Reporter
