import Launcher.Transcript

/-! Laws of transcripts and of the computations that keep them. -/

namespace Launcher

namespace Action

variable {σ τ ε α β : Type}

/-- Logging notes a record. -/
@[simp] theorem run_log (record : LogRecord) (state : σ) :
    (log record : Action σ Unit).run state = ⟨(), [.log record], state⟩ := rfl

/-- Acting on the first of two states leaves the second one alone. -/
@[simp] theorem run_first (action : Action σ α) (state : σ × τ) :
    action.first.run state = ⟨(action.run state.1).value, (action.run state.1).events,
      ((action.run state.1).state, state.2)⟩ := rfl

/-- Acting on the second of two states leaves the first one alone. -/
@[simp] theorem run_second (action : Action τ α) (state : σ × τ) :
    action.second.run state = ⟨(action.run state.2).value, (action.run state.2).events,
      (state.1, (action.run state.2).state)⟩ := rfl

/-- An attempt that succeeds is followed by what comes next. -/
theorem run_bind_of_ok {attempt : ExceptT ε (Action σ) α} {state : σ} {value : α}
    (succeeds : (attempt.run.run state).value = .ok value) (next : α → ExceptT ε (Action σ) β) :
    (attempt >>= next).run.run state =
      let first := attempt.run.run state
      let second := (next value).run.run first.state
      ⟨second.value, first.events ++ second.events, second.state⟩ := by
  -- The second step starts in the state that the first one left, and its events follow.
  simp only [ExceptT.run_bind, run_bind, succeeds]

/-- An attempt that fails is not followed by anything. -/
theorem run_bind_of_error {attempt : ExceptT ε (Action σ) α} {state : σ} {error : ε}
    (fails : (attempt.run.run state).value = .error error) (next : α → ExceptT ε (Action σ) β) :
    (attempt >>= next).run.run state =
      let first := attempt.run.run state
      ⟨.error error, first.events, first.state⟩ := by
  -- The second step does not happen, so no event of its own is added.
  simp only [ExceptT.run_bind, run_bind, fails, run_pure, List.append_nil]

/-- It does not matter how attempts in a row are grouped. -/
theorem attempt_bind_assoc {γ : Type} (attempt : ExceptT ε (Action σ) α)
    (next : α → ExceptT ε (Action σ) β) (later : β → ExceptT ε (Action σ) γ) :
    attempt >>= next >>= later = attempt >>= fun value => next value >>= later := by
  refine ExceptT.ext (funext fun state => ?_)
  show ((attempt >>= next >>= later).run.run state) = (attempt >>= _).run.run state
  simp only [ExceptT.run_bind, run_bind]
  -- Either way, nothing comes behind the first failure, and the events are joined in order.
  cases (attempt.run.run state).value with
  | error error => simp
  | ok value => simp

/-- Attempts in a row that succeed have both succeeded, one after the other. -/
theorem ok_of_run_bind {attempt : ExceptT ε (Action σ) α} {next : α → ExceptT ε (Action σ) β}
    {state : σ} {result : β} (succeeds : ((attempt >>= next).run.run state).value = .ok result) :
    ∃ value, (attempt.run.run state).value = .ok value ∧
      ((next value).run.run (attempt.run.run state).state).value = .ok result := by
  cases ended : (attempt.run.run state).value with
  | ok value =>
    rw [run_bind_of_ok ended] at succeeds
    exact ⟨value, rfl, succeeds⟩
  | error error =>
    -- Nothing comes behind a failure, so the whole would have failed.
    rw [run_bind_of_error ended] at succeeds
    cases succeeds

end Action

/-- The bytes that an event adds to what both streams took from the launcher together. -/
def Event.printed : Event → Bytes
  | .write _ taken _ => taken
  | .flush _ _ | .launch _ _ | .log _ => []

/-- The launch that an event is: a command, and the child that it led to. -/
def Event.launch? : Event → Option (CommandLine × Child)
  | .launch command child => some (command, child)
  | .write _ _ _ | .flush _ _ | .log _ => none

namespace Transcript

/-- What both streams took from the launcher together, in the order of events. -/
def printed (transcript : Transcript) : Bytes := transcript.flatMap Event.printed

/-- The commands that were launched, each with the child that it led to. -/
def launches (transcript : Transcript) : List (CommandLine × Child) :=
  transcript.filterMap Event.launch?

/-- What was printed before and after adds up. -/
@[simp] theorem printed_append (before after : Transcript) :
    printed (before ++ after) = printed before ++ printed after :=
  List.flatMap_append

/-- Nothing is printed where nothing happens. -/
@[simp] theorem printed_nil : printed [] = [] := rfl

/-- What a stream takes is printed before what is taken later. -/
@[simp] theorem printed_write_cons (stream : Stream) (taken : Bytes) (failure : Option Cause)
    (rest : Transcript) :
    printed (.write stream taken failure :: rest) = taken ++ printed rest := rfl

/-- Asking for delivery prints nothing. -/
@[simp] theorem printed_flush_cons (stream : Stream) (failure : Option Cause)
    (rest : Transcript) : printed (.flush stream failure :: rest) = printed rest := rfl

/-- A log record is not printed. -/
@[simp] theorem printed_log_cons (record : LogRecord) (rest : Transcript) :
    printed (.log record :: rest) = printed rest := rfl

/-- Log records are not printed. -/
@[simp] theorem printed_map_log (records : List LogRecord) :
    printed (records.map .log) = [] := by
  -- A log record is nothing that is printed.
  induction records with
  | nil => rfl
  | cons record rest ih => simp [ih]

/-- What a stream took before and after adds up. -/
@[simp] theorem written_append (before after : Transcript) (stream : Stream) :
    Transcript.written (before ++ after) stream = before.written stream ++ after.written stream :=
  List.flatMap_append

/-- Nothing is written where nothing happens. -/
@[simp] theorem written_nil (stream : Stream) : Transcript.written [] stream = [] := rfl

/-- What a stream takes comes before what it takes later. -/
@[simp] theorem written_write_cons (other stream : Stream) (taken : Bytes)
    (failure : Option Cause) (rest : Transcript) :
    Transcript.written (.write other taken failure :: rest) stream =
      (if other = stream then taken else []) ++ rest.written stream := rfl

/-- Asking for delivery writes nothing. -/
@[simp] theorem written_flush_cons (other stream : Stream) (failure : Option Cause)
    (rest : Transcript) :
    Transcript.written (.flush other failure :: rest) stream = rest.written stream := rfl

/-- A log record is not written. -/
@[simp] theorem written_log_cons (record : LogRecord) (rest : Transcript) (stream : Stream) :
    Transcript.written (.log record :: rest) stream = rest.written stream := rfl

/-- A launch comes before those that follow. -/
@[simp] theorem launched_launch_cons (command : CommandLine) (child : Child)
    (rest : Transcript) :
    Transcript.launched (.launch command child :: rest) = command :: rest.launched := rfl

/-- The launches before and after follow each other, with their children. -/
@[simp] theorem launches_append (before after : Transcript) :
    launches (before ++ after) = before.launches ++ after.launches :=
  List.filterMap_append

/-- Without events there are no launches. -/
@[simp] theorem launches_nil : launches [] = [] := rfl

/-- A launch comes before those that follow, with its child. -/
@[simp] theorem launches_launch_cons (command : CommandLine) (child : Child) (rest : Transcript) :
    launches (.launch command child :: rest) = (command, child) :: rest.launches := rfl

/-- Writing is no launch. -/
@[simp] theorem launches_write_cons (stream : Stream) (taken : Bytes) (failure : Option Cause)
    (rest : Transcript) : launches (.write stream taken failure :: rest) = rest.launches := rfl

/-- Asking for delivery is no launch. -/
@[simp] theorem launches_flush_cons (stream : Stream) (failure : Option Cause)
    (rest : Transcript) : launches (.flush stream failure :: rest) = rest.launches := rfl

/-- A log record is not one of the launches. -/
@[simp] theorem launches_log_cons (record : LogRecord) (rest : Transcript) :
    launches (.log record :: rest) = rest.launches := rfl

/-- The commands that were launched are those of the launches. -/
theorem launched_eq_map_launches (transcript : Transcript) :
    transcript.launched = transcript.launches.map Prod.fst := by
  induction transcript with
  | nil => rfl
  | cons event rest ih =>
    -- Only a launch adds to either side.
    cases event with
    | launch command child => rw [launched_launch_cons, launches_launch_cons, List.map_cons, ih]
    | write stream taken failure | flush stream failure | log record => exact ih

/-- Log records are not written. -/
@[simp] theorem written_map_log (records : List LogRecord) (stream : Stream) :
    Transcript.written (records.map .log) stream = [] := by
  -- A log record is written to neither stream.
  induction records with
  | nil => rfl
  | cons record rest ih => simp [ih]

/-- Log records are no launches. -/
@[simp] theorem launches_map_log (records : List LogRecord) :
    launches (records.map .log) = [] := by
  -- A log record starts no program.
  induction records with
  | nil => rfl
  | cons record rest ih => simp [ih]

end Transcript

end Launcher
