import Launcher.Proofs.Transcript
import Launcher.Run

/-! The rounds of a repetition: which runs take place, what they record and what is told of them. -/

namespace Launcher.Run

variable {σ ω : Type}

/-- The record of the run of a command at an index, by the child that it led to. -/
def record (command : CommandLine) (index : Nat) (child : Child) : Iteration where
  index := index
  exitCode := (child.outcome command.program).exitCode
  outcome := child.outcome command.program
  startedAt := child.startedAt
  durationMs := child.durationMs

/-- What a run leaves in the transcript by itself: its launch, and a remark if its program could not
be started. -/
def launchEvents (command : CommandLine) (child : Child) : Transcript :=
  .launch command child ::
    match child.ending with
    | .notStarted cause =>
      [.log (.launchFailed (LaunchError.launchFailure command.program cause).message)]
    -- A child that ended without an exit code was started, so there is nothing to remark.
    | .exited _ | .signaled _ | .withoutCode _ => []

/-- What is logged behind a run: that the repetition ends, if someone interrupted the run. -/
def endingRemarks (command : CommandLine) (index : Nat) (child : Child) : Transcript :=
  if (child.outcome command.program).isInterrupt then [.log (.interrupted index)] else []

/-- A run launches its command once, and leads to its child. -/
@[simp] theorem launches_launchEvents (command : CommandLine) (child : Child) :
    (launchEvents command child).launches = [(command, child)] := by
  -- A remark is no launch.
  rw [launchEvents]
  cases child.ending <;> rfl

/-- The launcher itself writes nothing while a run lasts. -/
@[simp] theorem written_launchEvents (command : CommandLine) (child : Child) (stream : Stream) :
    (launchEvents command child).written stream = [] := by
  -- What the child writes is its own, and a remark is only logged.
  rw [launchEvents]
  cases child.ending <;> rfl

/-- The launcher itself prints nothing while a run lasts. -/
@[simp] theorem printed_launchEvents (command : CommandLine) (child : Child) :
    (launchEvents command child).printed = [] := by
  -- Neither a launch nor a remark is printed.
  rw [launchEvents]
  cases child.ending <;> rfl

/-- What is logged behind a run is no launch. -/
@[simp] theorem launches_endingRemarks (command : CommandLine) (index : Nat) (child : Child) :
    (endingRemarks command index child).launches = [] := by
  -- There is one remark or none, and a remark is no launch.
  rw [endingRemarks]
  split <;> rfl

/-- What is logged behind a run is not written. -/
@[simp] theorem written_endingRemarks (command : CommandLine) (index : Nat) (child : Child)
    (stream : Stream) : (endingRemarks command index child).written stream = [] := by
  -- There is one remark or none, and a remark is not written to a stream.
  rw [endingRemarks]
  split <;> rfl

/-- What is logged behind a run is not printed. -/
@[simp] theorem printed_endingRemarks (command : CommandLine) (index : Nat) (child : Child) :
    (endingRemarks command index child).printed = [] := by
  -- There is one remark or none, and a remark is not printed.
  rw [endingRemarks]
  split <;> rfl

/-- One round of a repetition, around the launch of a given child. -/
def round (observer : Observer σ) (command : CommandLine) (index : Nat) (child : Child) :
    Action σ Unit := fun start =>
  let told := (observer.started index).run start
  let heard := (observer.finished (record command index child)).run told.state
  { value := ()
    events := told.events ++ .log (.launching index command.program) ::
      (launchEvents command child ++
        .log (.iterationFinished index (child.outcome command.program).exitCode) ::
          (heard.events ++ endingRemarks command index child))
    state := heard.state }

/-- The rounds around the launches of given children, the first of them at an index. -/
def rounds (observer : Observer σ) (command : CommandLine) : Nat → List Child → Action σ Unit
  | _, [] => pure ()
  | index, child :: rest => do
    round observer command index child
    rounds observer command (index + 1) rest

/-- The records of runs that led to given children, the first of them at an index. -/
def records (command : CommandLine) : Nat → List Child → List Iteration
  | _, [] => []
  | index, child :: rest => record command index child :: records command (index + 1) rest

/-- Whether someone interrupted the last of the runs that led to given children. -/
def endedEarly (command : CommandLine) (run : List Child) : Bool :=
  run.getLast?.any fun child => (child.outcome command.program).isInterrupt

/-- A record has the outcome of its child. -/
@[simp] theorem record_outcome (command : CommandLine) (index : Nat) (child : Child) :
    (record command index child).outcome = child.outcome command.program := rfl

/-- A record has the exit code of its outcome. -/
@[simp] theorem record_exitCode (command : CommandLine) (index : Nat) (child : Child) :
    (record command index child).exitCode = (child.outcome command.program).exitCode := rfl

/-- Behind a run that nobody interrupted, the later runs tell whether the repetition ended early. -/
theorem endedEarly_cons {command : CommandLine} {child : Child}
    (lasts : ¬ (child.outcome command.program).isInterrupt) (rest : List Child) :
    endedEarly command (child :: rest) = endedEarly command rest := by
  -- The last run is the same unless there was only the one.
  cases rest with
  | nil => simpa [endedEarly] using lasts
  | cons next later => simp [endedEarly]

/-- A round tells of its start, launches the command, tells of its end, and logs on the way. -/
theorem round_run (observer : Observer σ) (command : CommandLine) (index : Nat) (child : Child)
    (start : σ) :
    (round observer command index child).run start =
      let told := (observer.started index).run start
      let heard := (observer.finished (record command index child)).run told.state
      ⟨(), told.events ++ .log (.launching index command.program) ::
        (launchEvents command child ++
          .log (.iterationFinished index (child.outcome command.program).exitCode) ::
            (heard.events ++ endingRemarks command index child)), heard.state⟩ := rfl

variable [Host ω]

/-- The machine after a command was run so many times. -/
def worldAfter (command : CommandLine) : Nat → ω → ω
  | 0, world => world
  | runs + 1, world => worldAfter command runs (Host.run world command).2

/-- The children of so many runs of a command, up to the first one that someone interrupts. -/
def children (command : CommandLine) : Nat → ω → List Child
  | 0, _ => []
  | remaining + 1, world =>
    let (child, next) := Host.run world command
    if (child.outcome command.program).isInterrupt then [child]
    else child :: children command remaining next

/-- An interrupted run is the last one. -/
theorem children_of_stops {command : CommandLine} {world : ω}
    (stops : ((Host.run world command).1.outcome command.program).isInterrupt) (remaining : Nat) :
    children command (remaining + 1) world = [(Host.run world command).1] := by
  -- An interrupted run is the last one.
  simp [children, stops]

/-- A run that nobody interrupts is followed by the remaining ones. -/
theorem children_of_lasts {command : CommandLine} {world : ω}
    (lasts : ¬ ((Host.run world command).1.outcome command.program).isInterrupt)
    (remaining : Nat) :
    children command (remaining + 1) world =
      (Host.run world command).1 :: children command remaining (Host.run world command).2 := by
  -- A run that nobody interrupted is followed by the others, in the world that it left.
  simp [children, lasts]

/-- A run gives the child that the machine gives, and its outcome. -/
theorem attempt_run (command : CommandLine) (world : ω) :
    (attempt command).run world =
      ⟨((Host.run world command).1.outcome command.program, (Host.run world command).1),
        launchEvents command (Host.run world command).1, (Host.run world command).2⟩ := by
  have launched : (launch command).run world = ⟨(Host.run world command).1,
      [.launch command (Host.run world command).1], (Host.run world command).2⟩ := rfl
  simp only [attempt, Action.run_bind, Action.run_pure, launched, List.append_nil]
  -- Only a program that could not be started leaves a remark of its own.
  cases ending : (Host.run world command).1.ending <;>
    simp [launchEvents, logFailure, ending]

/-- A run as one of several records the child that the machine gives. -/
theorem iteration_run (command : CommandLine) (index : Nat) (world : ω) :
    (iteration command index).run world =
      ⟨record command index (Host.run world command).1,
        launchEvents command (Host.run world command).1, (Host.run world command).2⟩ := by
  -- The record is made of the attempt and its index.
  simp [iteration, attempt_run, record]

/-- A single run gives the outcome of the child that the machine gives. -/
theorem once_run (command : CommandLine) (world : ω) :
    (once command).run world =
      ⟨(Host.run world command).1.outcome command.program,
        launchEvents command (Host.run world command).1, (Host.run world command).2⟩ := by
  -- Of the attempt, only the outcome is kept.
  simp [once, attempt_run]

/-- A repetition is its rounds around the children that the machine gives. -/
theorem iterations_run (observer : Observer σ) (command : CommandLine) (remaining index : Nat)
    (start : σ) (world : ω) :
    (iterations observer command index remaining).run (start, world) =
      let run := children command remaining world
      let step := (rounds observer command index run).run start
      ⟨(records command index run, endedEarly command run), step.events,
        (step.state, worldAfter command run.length world)⟩ := by
  -- The index, the observer and the machine change with every round.
  induction remaining generalizing index start world with
  | zero => rfl
  | succ remaining ih =>
    by_cases stops : ((Host.run world command).1.outcome command.program).isInterrupt
    · -- An interrupt is logged behind the round, and nothing follows.
      simp only [children_of_stops stops, iterations, Action.run_bind, Action.run_first,
        Action.run_second, Action.run_log, iteration_run, record_outcome, record_exitCode, stops,
        if_true]
      simp [records, rounds, round_run, endedEarly, stops, endingRemarks, worldAfter]
    · -- Otherwise the rest goes on from where the round left the observer and the machine.
      simp only [children_of_lasts stops, iterations, Action.run_bind, Action.run_first,
        Action.run_second, Action.run_log, iteration_run, record_outcome, record_exitCode, stops,
        endedEarly_cons stops]
      simp [records, rounds, round_run, stops, endingRemarks, worldAfter, ih]

/-- A repetition is its rounds around the children that the machine gives, and reports on them. -/
theorem repeated_run (observer : Observer σ) (command : CommandLine) (times : Nat) (start : σ)
    (world : ω) :
    (repeated observer command times).run (start, world) =
      let run := children command times world
      let step := (rounds observer command 0 run).run start
      ⟨{ command, times, iterations := records command 0 run,
         interrupted := endedEarly command run }, step.events,
        (step.state, worldAfter command run.length world)⟩ := by
  -- The iterations are run as rounds, and the report gathers what they led to.
  simp [repeated, iterations_run]

end Launcher.Run
