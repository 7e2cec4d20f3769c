import Launcher.Proofs.Reporter.Printing

/-! Attempts to print fail with the first failure of a stream, whatever is held back meanwhile. -/

namespace Launcher

/-- Why a stream failed to take bytes or to deliver them, if that is what happened. -/
def Event.failure? : Event → Option Cause
  | .write _ _ failure | .flush _ failure => failure
  | .launch _ _ | .log _ => none

/-- The first failure of a stream to take bytes or to deliver them. -/
def Transcript.firstFailure (transcript : Transcript) : Option Cause :=
  transcript.findSome? Event.failure?

/-- The first failure is that of the earlier events, or else that of the later ones. -/
@[simp] theorem Transcript.firstFailure_append (before after : Transcript) :
    Transcript.firstFailure (before ++ after) = before.firstFailure.or after.firstFailure :=
  List.findSome?_append

namespace Reporter

variable {δ : Type}

/-- What is logged about a failure is none. -/
@[simp] theorem firstFailure_heldRemarks (held : Option Cause) (result : Except Cause Unit) :
    (heldRemarks held result).firstFailure = none := by
  -- A remark about a failure that is held back is a log record, and none of these fails.
  cases result <;> cases held <;> rfl

/-- An attempt fails with the first failure of a stream, whatever is held back, and leaves alone
the mode and what is held back. -/
structure Forthright (attempt : Printing δ Unit) : Prop where
  /-- The mode stays the same. -/
  mode : ∀ reporter, (attempt.run.run reporter).state.json = reporter.json
  /-- The result tells of the first failure. -/
  value : ∀ reporter, (attempt.run.run reporter).value =
    resultOf (attempt.run.run reporter).events.firstFailure
  /-- What is held back neither counts nor changes. -/
  frame : ∀ (reporter : Reporter δ) held, attempt.run.run { reporter with held } =
    let step := attempt.run.run reporter
    ⟨step.value, step.events, { step.state with held }⟩

namespace Forthright

/-- What is held back stays so. -/
theorem held {attempt : Printing δ Unit} (forthright : Forthright attempt)
    (reporter : Reporter δ) : (attempt.run.run reporter).state.held = reporter.held := by
  -- Holding back what is held back already is no change.
  have same := forthright.frame reporter reporter.held
  exact congrArg (fun step => step.state.held) same

/-- Trying nothing is forthright. -/
theorem pure : Forthright (pure () : Printing δ Unit) :=
  ⟨fun _ => rfl, fun _ => rfl, fun _ _ => rfl⟩

/-- One forthright attempt behind the other is forthright. -/
theorem andThen {first second : Printing δ Unit} (head : Forthright first)
    (tail : Forthright second) : Forthright (first >>= fun _ => second) := by
  refine ⟨fun reporter => ?_, fun reporter => ?_, fun reporter held => ?_⟩
  · cases ended : (first.run.run reporter).value with
    | ok value =>
      rw [Action.run_bind_of_ok ended]
      exact (tail.mode _).trans (head.mode reporter)
    | error cause =>
      rw [Action.run_bind_of_error ended]
      exact head.mode reporter
  · -- The result is that of the attempt that failed first.
    have told := head.value reporter
    cases ended : (first.run.run reporter).value with
    | ok value =>
      have sound : (first.run.run reporter).events.firstFailure = none :=
        resultOf_eq_ok.mp (told.symm.trans ended)
      rw [Action.run_bind_of_ok ended]
      simp only [Transcript.firstFailure_append, sound, Option.none_or]
      exact tail.value _
    | error cause =>
      rw [Action.run_bind_of_error ended]
      exact ended.symm.trans told
  · -- With something else held back, both attempts go the same way.
    have same := head.frame reporter held
    cases ended : (first.run.run reporter).value with
    | ok value =>
      have there : (first.run.run { reporter with held }).value = .ok value := by
        rw [same]
        exact ended
      have later := tail.frame (first.run.run reporter).state held
      rw [Action.run_bind_of_ok ended, Action.run_bind_of_ok there]
      simp only [same, later]
    | error cause =>
      have there : (first.run.run { reporter with held }).value = .error cause := by
        rw [same]
        exact ended
      rw [Action.run_bind_of_error ended, Action.run_bind_of_error there]
      simp only [same]

/-- An attempt that depends on the mode is forthright if it is so in either mode. -/
theorem of_mode {attempt : Printing δ Unit} (inMode : Bool → Printing δ Unit)
    (same : ∀ reporter : Reporter δ,
      attempt.run.run reporter = (inMode reporter.json).run.run reporter)
    (forthright : ∀ json, Forthright (inMode json)) : Forthright attempt := by
  -- Each part is about runs from one reporter, and holding something back leaves its mode.
  refine ⟨fun reporter => ?_, fun reporter => ?_, fun reporter held => ?_⟩
  · rw [same]
    exact (forthright reporter.json).mode reporter
  · rw [same]
    exact (forthright reporter.json).value reporter
  · rw [same, same]
    exact (forthright reporter.json).frame reporter held

variable [Sink δ]

/-- Writing a line is forthright. -/
theorem writeLine (stream : Stream) (text : String) :
    Forthright (Reporter.writeLine stream text : Printing δ Unit) := by
  refine ⟨fun reporter => ?_, fun reporter => ?_, fun reporter held => ?_⟩
  · cases stream <;> rfl
  · rw [writeLine_run]
    -- The only event is the write, so that the first failure is its own.
    cases failed : (Sink.write (reporter.sink stream) (lineBytes text)).1.failure? with
    | none => simp [Transcript.firstFailure, Event.failure?, failed]
    | some cause => simp [Transcript.firstFailure, Event.failure?, failed]
  · cases stream <;> rfl

/-- Asking for delivery is forthright. -/
theorem flush (stream : Stream) : Forthright (Reporter.flush stream : Printing δ Unit) := by
  refine ⟨fun reporter => ?_, fun reporter => ?_, fun reporter held => ?_⟩
  · cases stream <;> rfl
  · rw [flush_run]
    -- The only event is the flush, so that the first failure is its own.
    cases failed : (Sink.flush (reporter.sink stream)).1 with
    | none => simp [Transcript.firstFailure, Event.failure?, failed]
    | some cause => simp [Transcript.firstFailure, Event.failure?, failed]
  · cases stream <;> rfl

/-- Writing lines is forthright. -/
theorem writeLines (stream : Stream) (texts : List String) :
    Forthright (Reporter.writeLines stream texts : Printing δ Unit) := by
  -- The lines are written one behind the other, and a sequence of forthright attempts is
  -- forthright.
  induction texts with
  | nil => exact pure
  | cons text rest ih => exact (writeLine stream text).andThen ih

/-- Delivering lines is forthright. -/
theorem deliver (stream : Stream) (texts : List String) :
    Forthright (Reporter.deliver stream texts : Printing δ Unit) :=
  (writeLines stream texts).andThen (flush stream)

end Forthright

/-- Holding back a failure gives no result, and keeps the failure unless there was one before. -/
theorem holding_step {attempt : Printing δ Unit} (forthright : Forthright attempt)
    (reporter : Reporter δ) :
    let step := (holding attempt).run reporter
    step.state.json = reporter.json ∧
      step.state.held = reporter.held.or step.events.firstFailure := by
  -- Holding back turns the result into what is held, and the result tells of the first failure.
  intro step
  have same : step = _ := holding_run attempt reporter
  rw [same]
  simp [forthright.mode, forthright.held, forthright.value]

end Reporter

end Launcher
