import Launcher.Proofs.Run.Rounds

/-! A repetition follows the outcomes of its runs: how many take place, what is reported of them,
and what an observer is told. -/

namespace Launcher

/-- What an observer is told about a run: that it starts, and how it ended. -/
def Iteration.notices (iteration : Iteration) : List Notice :=
  [.started iteration.index, .finished iteration]

namespace Observer

variable {σ : Type}

/-- Tells an observer. -/
def hear (observer : Observer σ) : Notice → Action σ Unit
  | .started index => observer.started index
  | .finished iteration => observer.finished iteration

/-- Tells an observer one thing after the other. -/
def hearAll (observer : Observer σ) : List Notice → Action σ Unit
  | [] => pure ()
  | notice :: rest => do
    observer.hear notice
    hearAll observer rest

/-- The recorder keeps what it is told, in order. -/
theorem recorder_hearAll (notices before : List Notice) :
    ((recorder.hearAll notices).run before).state = before ++ notices := by
  -- What was told before grows by one with every notice.
  induction notices generalizing before with
  | nil => simp [hearAll]
  | cons notice rest ih =>
    have kept : ((recorder.hear notice).run before).state = before ++ [notice] := by
      cases notice <;> rfl
    rw [hearAll, Action.run_bind]
    simp only [kept, ih]
    simp

end Observer

namespace Run

variable {σ ω : Type}

/-- The observer is told of every round, of its start before its end. -/
theorem rounds_state (observer : Observer σ) (command : CommandLine) (index : Nat)
    (run : List Child) (start : σ) :
    ((rounds observer command index run).run start).state =
      ((observer.hearAll ((records command index run).flatMap Iteration.notices)).run
        start).state := by
  induction run generalizing index start with
  | nil => rfl
  | cons child rest ih =>
    -- A round tells of its start and of its end, as the notices of its record do.
    simp only [rounds, Action.run_bind, round_run, ih]
    rfl

/-- If the observer launches nothing, every round launches the command once and leads to its
child. -/
theorem rounds_launches {observer : Observer σ}
    (quiet : ∀ notice state, ((observer.hear notice).run state).events.launches = [])
    (command : CommandLine) (index : Nat) (run : List Child) (start : σ) :
    ((rounds observer command index run).run start).events.launches =
      run.map fun child => (command, child) := by
  induction run generalizing index start with
  | nil => rfl
  | cons child rest ih =>
    -- What the observer hears starts no program.
    have silentStart : ∀ state, ((observer.started index).run state).events.launches = [] :=
      quiet (.started index)
    have silentEnd : ∀ iteration state,
        ((observer.finished iteration).run state).events.launches = [] :=
      fun iteration => quiet (.finished iteration)
    -- Of the events that a round adds to what the observer leaves, the launch is the only one.
    have once : ((round observer command index child).run start).events.launches =
        [(command, child)] := by
      simp [round_run, silentStart, silentEnd]
    rw [rounds, Action.run_bind]
    simp only [Transcript.launches_append, once, ih]
    rfl

/-- If the observer launches nothing, every round launches the command once. -/
theorem rounds_launched {observer : Observer σ}
    (quiet : ∀ notice state, ((observer.hear notice).run state).events.launched = [])
    (command : CommandLine) (index : Nat) (run : List Child) (start : σ) :
    ((rounds observer command index run).run start).events.launched =
      List.replicate run.length command := by
  -- Where no command was launched, there was no launch.
  have silent : ∀ notice state, ((observer.hear notice).run state).events.launches = [] := by
    intro notice state
    have none := quiet notice state
    rwa [Transcript.launched_eq_map_launches, List.map_eq_nil_iff] at none
  rw [Transcript.launched_eq_map_launches, rounds_launches silent, List.map_map]
  exact List.map_const'

variable [Host ω]

/-- The child of the run at an index, when a command is run again and again. -/
def childAt (command : CommandLine) (world : ω) (index : Nat) : Child :=
  (Host.run (worldAfter command index world) command).1

/-- The outcome of the run at an index, when a command is run again and again. -/
def outcomeAt (command : CommandLine) (world : ω) (index : Nat) : Outcome :=
  (childAt command world index).outcome command.program

/-- Someone stopped a run from outside. -/
def Interrupted (outcome : Outcome) : Prop := outcome = .signaled 2 ∨ outcome = .signaled 15

/-- Only the two signals that stop a program from outside count as an interrupt. -/
theorem isInterrupt_iff (outcome : Outcome) : outcome.isInterrupt = true ↔ Interrupted outcome := by
  -- Only a signal can be an interruption, and only one of the two that ask for an end.
  cases outcome with
  | exited code => simp [Outcome.isInterrupt, Interrupted]
  | launchFailed message => simp [Outcome.isInterrupt, Interrupted]
  | signaled signal =>
    rw [Outcome.isInterrupt, Outcome.interruptSignal, Outcome.terminateSignal, Bool.or_eq_true,
      decide_eq_true_eq, decide_eq_true_eq, Interrupted, Outcome.signaled.injEq,
      Outcome.signaled.injEq]

/-- How many of so many runs take place: all, or those up to the first that is interrupted. -/
def EndsAfter (outcomes : Nat → Outcome) (times runs : Nat) : Prop :=
  (runs = times ∧ ∀ index < times, ¬ Interrupted (outcomes index)) ∨
    ∃ first < times, runs = first + 1 ∧ Interrupted (outcomes first) ∧
      ∀ earlier < first, ¬ Interrupted (outcomes earlier)

/-- Behind a run that nobody interrupted, the later runs tell how many take place. -/
theorem endsAfter_succ {outcomes : Nat → Outcome} {times runs : Nat}
    (lasts : ¬ Interrupted (outcomes 0))
    (later : EndsAfter (fun index => outcomes (index + 1)) times runs) :
    EndsAfter outcomes (times + 1) (runs + 1) := by
  -- Positions among the later runs are one less than those among all runs.
  rcases later with ⟨all, calm⟩ | ⟨first, inside, last, stopped, calm⟩
  · refine .inl ⟨by omega, fun index inside => ?_⟩
    cases index with
    | zero => exact lasts
    | succ index => exact calm index (by omega)
  · refine .inr ⟨first + 1, by omega, by omega, stopped, fun earlier before => ?_⟩
    cases earlier with
    | zero => exact lasts
    | succ earlier => exact calm earlier (by omega)

/-- The runs that take place are as many as the outcomes allow. -/
theorem endsAfter_children (command : CommandLine) (times : Nat) (world : ω) :
    EndsAfter (outcomeAt command world) times (children command times world).length := by
  induction times generalizing world with
  | zero => exact .inl ⟨rfl, by simp⟩
  | succ remaining ih =>
    by_cases stops : ((Host.run world command).1.outcome command.program).isInterrupt
    · -- The first run is interrupted, so it is the only one.
      rw [children_of_stops stops, List.length_singleton]
      exact .inr ⟨0, by omega, rfl, (isInterrupt_iff _).mp stops, by simp⟩
    · rw [children_of_lasts stops, List.length_cons]
      exact endsAfter_succ (fun stopped => stops ((isInterrupt_iff _).mpr stopped))
        (ih (Host.run world command).2)

/-- The runs that take place lead to the children that the machine gives in turn. -/
theorem children_getElem? (command : CommandLine) (times : Nat) (world : ω) {index : Nat}
    (inside : index < (children command times world).length) :
    (children command times world)[index]? = some (childAt command world index) := by
  induction times generalizing world index with
  | zero => simp [children] at inside
  | succ remaining ih =>
    by_cases stops : ((Host.run world command).1.outcome command.program).isInterrupt
    · -- An interrupted run is the only one.
      rw [children_of_stops stops, List.length_singleton] at inside
      obtain rfl : index = 0 := by omega
      rw [children_of_stops stops]
      rfl
    · -- Behind the first run, the machine is as that run left it, and positions start anew.
      rw [children_of_lasts stops, List.length_cons] at inside
      rw [children_of_lasts stops]
      cases index with
      | zero => rfl
      | succ index =>
        rw [List.getElem?_cons_succ]
        exact ih (Host.run world command).2 (by omega)

/-- There is one record for each run. -/
@[simp] theorem length_records (command : CommandLine) (index : Nat) (run : List Child) :
    (records command index run).length = run.length := by
  -- Each child is recorded once.
  induction run generalizing index with
  | nil => rfl
  | cons child rest ih => simp [records, ih]

/-- The record at a position is that of the child at this position. -/
theorem records_getElem? (command : CommandLine) (index position : Nat) (run : List Child) :
    (records command index run)[position]? =
      run[position]?.map (record command (index + position)) := by
  -- The first record has the index itself; behind it, index and position shift by one.
  induction run generalizing index position with
  | nil => rfl
  | cons child rest ih =>
    cases position with
    | zero => rfl
    | succ position =>
      have shifted : index + 1 + position = index + (position + 1) := by omega
      rw [records, List.getElem?_cons_succ, List.getElem?_cons_succ, ih, shifted]

/-- A repetition is reported as interrupted exactly if its last record is of an interrupted run. -/
theorem endedEarly_iff (command : CommandLine) (index : Nat) (run : List Child) :
    endedEarly command run = true ↔
      ∃ last, (records command index run).getLast? = some last ∧ Interrupted last.outcome := by
  -- The last record is that of the last child.
  have lastRecord : (records command index run).getLast? =
      run.getLast?.map (record command (index + (run.length - 1))) := by
    rw [List.getLast?_eq_getElem?, List.getLast?_eq_getElem?, length_records, records_getElem?]
  rw [lastRecord, endedEarly]
  cases run.getLast? with
  | none => simp
  | some child => simp [isInterrupt_iff]

/-- A repetition runs its command as often as it is to, up to the first interrupt, and reports every
run in order with its outcome; the observer is told of the start and the end of each. -/
theorem repeated_follows_outcomes (observer : Observer σ) (command : CommandLine) (times : Nat)
    (start : σ) (world : ω) :
    ∃ runs, EndsAfter (outcomeAt command world) times runs ∧
      let step := (repeated observer command times).run (start, world)
      let notices := step.value.iterations.flatMap Iteration.notices
      step.value.command = command ∧ step.value.times = times ∧
      step.value.iterations.length = runs ∧
      (∀ index < runs, ∃ iteration, step.value.iterations[index]? = some iteration ∧
        iteration.index = index ∧ iteration.outcome = outcomeAt command world index ∧
        iteration.exitCode = (outcomeAt command world index).exitCode) ∧
      (step.value.interrupted = true ↔
        ∃ last, step.value.iterations.getLast? = some last ∧ Interrupted last.outcome) ∧
      step.state = (((observer.hearAll notices).run start).state, worldAfter command runs world) ∧
      ((repeated Observer.recorder command times).run ([], world)).state.1 = notices ∧
      ((∀ notice state, ((observer.hear notice).run state).events.launched = []) →
        step.events.launched = List.replicate runs command) := by
  refine ⟨(children command times world).length, endsAfter_children command times world, ?_⟩
  simp only [repeated_run]
  refine ⟨trivial, trivial, length_records _ _ _, ?_, endedEarly_iff _ _ _, ?_, ?_, ?_⟩
  · -- The record at an index is that of the child at this index.
    intro index inside
    refine ⟨record command index (childAt command world index), ?_, rfl, rfl, rfl⟩
    rw [records_getElem?, children_getElem? command times world inside, Nat.zero_add]
    rfl
  · rw [rounds_state]
  · -- The recorder starts without a notice, so it ends with those of the rounds.
    rw [rounds_state, Observer.recorder_hearAll, List.nil_append]
  · intro quiet
    exact rounds_launched quiet command 0 _ start

end Run

end Launcher
