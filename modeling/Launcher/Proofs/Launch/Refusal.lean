import Launcher.Proofs.Invocation.Refusal
import Launcher.Proofs.Launch.Carrying

/-! A launch that is refused, or cannot list its scripts, tells the first fault of its tokens and
does nothing besides; any other launch that fails does so because its output cannot be written. -/

namespace Launcher

/-- The fault that is told of tokens is a mistake on the command line. -/
theorem Request.FirstFault.isUsage {tokens : List String} {error : LaunchError}
    (fault : FirstFault tokens error) : error.isUsage = true := by
  -- Each of the four faults is one of the kinds that count as such a mistake.
  cases fault <;> rfl

namespace Launch

variable {δ ω α β : Type}

/-- If a launch fails, it is because its output cannot be written. -/
def FailsOnlyToPrint (launch : Launching δ ω α) : Prop :=
  ∀ start error, (launch.run.run start).value = .error error → ∃ cause, error = .output cause

namespace FailsOnlyToPrint

/-- Launches in a row fail only to print if each of them does. -/
theorem bind {launch : Launching δ ω α} {next : α → Launching δ ω β}
    (first : FailsOnlyToPrint launch) (later : ∀ value, FailsOnlyToPrint (next value)) :
    FailsOnlyToPrint (launch >>= next) := by
  intro start error failed
  cases ended : (launch.run.run start).value with
  | ok value =>
    -- The failure is that of the later launch, from where the first one left off.
    rw [Action.run_bind_of_ok ended] at failed
    exact later value _ error failed
  | error cause =>
    rw [Action.run_bind_of_error ended] at failed
    obtain rfl : cause = error := Except.error.inj failed
    exact first start cause ended

/-- Giving a result does not fail. -/
theorem pure (value : α) : FailsOnlyToPrint (pure value : Launching δ ω α) := by
  -- There is no failure.
  intro start error failed
  cases failed

/-- Logging does not fail. -/
theorem logAll (records : List LogRecord) :
    FailsOnlyToPrint (Launch.logAll records : Launching δ ω Unit) := by
  -- A log record cannot fail.
  intro start error failed
  rw [logAll_run] at failed
  cases failed

/-- A result that is given does not fail. -/
theorem settle (value : α) : FailsOnlyToPrint (Launch.settle (.ok value) : Launching δ ω α) := by
  -- What is settled is a value.
  intro start error failed
  cases failed

/-- What cannot end a launch does not fail. -/
theorem perform (action : Action (Reporter δ × ω) α) :
    FailsOnlyToPrint (Launch.perform action) := by
  -- An action of its own cannot fail.
  intro start error failed
  rw [perform_run] at failed
  cases failed

/-- Printing fails with what the output meets. -/
theorem print (printing : Printing δ α) :
    FailsOnlyToPrint (Launch.print printing : Launching δ ω α) := by
  intro start error failed
  rw [print_run] at failed
  -- The cause is that of the failure to print.
  cases printed : (printing.run.run start.1).value with
  | ok value => simp [printed, Except.mapError] at failed
  | error cause =>
    refine ⟨cause, ?_⟩
    simpa [printed, Except.mapError, eq_comm] using failed

end FailsOnlyToPrint

variable [Sink δ] [Host ω] {settings : Settings} {tokens : List String} {error : LaunchError}

/-- A refusal is told at once: on the way there is nothing but logging. -/
theorem harness_run_of_refused (refused : Invocation.Refused settings tokens error)
    (start : Reporter δ × ω) :
    ∃ records : List LogRecord, (harness settings tokens : Launching δ ω (Option Report)).run.run
      start = ⟨.error error, records.map .log, start⟩ := by
  rcases refused with asked | ⟨options, positionals, asked, wrong⟩
  · -- Tokens that make no sense do not even get a remark.
    exact ⟨[], harness_run_of_senseless asked start⟩
  · refine ⟨Invocation.remarks positionals (.error error), ?_⟩
    rw [harness_run_of_asked asked]
    simp only [carryOut, wrong]
    -- What is remarked on the arguments is logged before the error ends the launch.
    rw [Action.run_bind_of_ok (congrArg Step.value (logAll_run _ start)), logAll_run]
    simp only [Action.run_bind_of_error (congrArg Step.value (settle_run _ start)), settle_run,
      List.append_nil]

/-- A directory that cannot be listed is told of at once. -/
theorem harness_run_of_unread {start : Reporter δ × ω} {cause : Cause}
    (asked : Request.ofTokens .defaults tokens = .ok .listScripts)
    (unread : Host.entries start.2 settings.scriptsDir = .error cause) :
    (harness settings tokens : Launching δ ω (Option Report)).run.run start =
      ⟨.error (.scriptsDirectory settings.scriptsDir cause), [], start⟩ := by
  -- The failure of the listing ends the launch.
  have listed := listScripts_run_of_error (δ := δ) unread settings.scriptExtension
  rw [harness_run_of_asked asked]
  exact (Action.run_bind_of_error (congrArg Step.value listed) _).trans (by rw [listed])

/-- A launch fails because it is refused, because its scripts cannot be listed, or because its
output cannot be written. -/
theorem harness_error_cases {start : Reporter δ × ω}
    (failed : ((harness settings tokens : Launching δ ω (Option Report)).run.run start).value =
      .error error) :
    Invocation.Refused settings tokens error ∨
      (∃ cause, Request.ofTokens .defaults tokens = .ok .listScripts ∧
        Host.entries start.2 settings.scriptsDir = .error cause ∧
        error = .scriptsDirectory settings.scriptsDir cause) ∨
      ∃ cause, error = .output cause := by
  cases asked : Request.ofTokens .defaults tokens with
  | error fault =>
    rw [harness_run_of_senseless asked] at failed
    obtain rfl : fault = error := Except.error.inj failed
    exact .inl (.inl asked)
  | ok request =>
    cases request with
    | listScripts =>
      cases found : Host.entries start.2 settings.scriptsDir with
      | error cause =>
        rw [harness_run_of_unread asked found] at failed
        exact .inr (.inl ⟨cause, rfl, rfl, (Except.error.inj failed).symm⟩)
      | ok entries =>
        -- The names are there, and only printing them can fail.
        rw [harness_run_of_asked asked] at failed
        have listed := listScripts_run (δ := δ) found settings.scriptExtension
        rw [carryOut, Action.run_bind_of_ok (congrArg Step.value listed), listed] at failed
        exact .inr (.inr (((FailsOnlyToPrint.print _).bind fun _ => .pure none) start error failed))
    | help =>
      -- Only the usage line is left to print.
      rw [harness_run_of_asked asked] at failed
      have shown : FailsOnlyToPrint (carryOut settings .help : Launching δ ω (Option Report)) :=
        (FailsOnlyToPrint.print _).bind fun _ => .pure _
      exact .inr (.inr (shown start error failed))
    | launch options positionals =>
      cases built : Invocation.harness settings options positionals with
      | error fault =>
        have refused : Invocation.Refused settings tokens fault :=
          .inr ⟨options, positionals, asked, built⟩
        obtain ⟨records, told⟩ := harness_run_of_refused (δ := δ) (ω := ω) refused start
        rw [told] at failed
        obtain rfl : fault = error := Except.error.inj failed
        exact .inl refused
      | ok invocation =>
        -- The command and the report are printed, and nothing else can fail.
        rw [harness_run_of_asked asked] at failed
        have shown : FailsOnlyToPrint
            (carryOut settings (.launch options positionals) :
              Launching δ ω (Option Report)) := by
          simp only [carryOut, built]
          exact (FailsOnlyToPrint.logAll _).bind fun _ => (FailsOnlyToPrint.settle _).bind fun _ =>
            (FailsOnlyToPrint.print _).bind fun _ => (FailsOnlyToPrint.perform _).bind fun _ =>
              (FailsOnlyToPrint.print _).bind fun _ => .pure _
        exact .inr (.inr (shown start error failed))

/-- A launch ends with a mistake on the command line exactly if its tokens are refused for it. -/
theorem harness_usage_iff {start : Reporter δ × ω} :
    (((harness settings tokens : Launching δ ω (Option Report)).run.run start).value =
        .error error ∧ error.isUsage = true) ↔ Invocation.Refused settings tokens error := by
  constructor
  · rintro ⟨failed, usage⟩
    -- The other ways to fail are no mistakes on the command line.
    rcases harness_error_cases failed with refused | ⟨cause, _, _, rfl⟩ | ⟨cause, rfl⟩
    · exact refused
    · simp [LaunchError.isUsage] at usage
    · simp [LaunchError.isUsage] at usage
  · intro refused
    obtain ⟨records, told⟩ := harness_run_of_refused (δ := δ) (ω := ω) refused start
    obtain ⟨_, _, fault⟩ := Invocation.firstFault_of_refused refused
    exact ⟨congrArg Step.value told, fault.isUsage⟩

/-- Whatever goes wrong before there is something to print leaves only log records. -/
theorem harness_silent_of_error {start : Reporter δ × ω}
    (failed : ((harness settings tokens : Launching δ ω (Option Report)).run.run start).value =
      .error error) :
    (∃ cause, error = .output cause) ∨
      ∃ records : List LogRecord, (harness settings tokens :
        Launching δ ω (Option Report)).run.run start = ⟨.error error, records.map .log, start⟩ := by
  -- An error comes before everything that could be printed, or from the printing.
  rcases harness_error_cases failed with refused | ⟨cause, asked, unread, rfl⟩ | printing
  · exact .inr (harness_run_of_refused refused start)
  · exact .inr ⟨[], harness_run_of_unread asked unread⟩
  · exact .inl printing

/-- A mistake on the command line ends a launch exactly if there is one and nothing else is wished
for before it; the first fault is told. Then, and if the scripts cannot be listed, nothing is
written, flushed or launched, so what does any of these fails only because of its output. -/
theorem usage_error_tells_first_fault (settings : Settings) (tokens : List String)
    (reporter : Reporter δ) (world : ω) :
    let step := (harness settings tokens : Launching δ ω (Option Report)).run.run (reporter, world)
    ((∃ error, step.value = .error error ∧ error.isUsage = true) ↔
      "--ls" ∉ tokens ∧ "--help" ∉ Request.beforeMalformed tokens ∧
        ((∃ token ∈ tokens, Token.Malformed token) ∨
          ("--help" ∉ tokens ∧ (Request.positionals tokens).length < 2) ∨
          ("--help" ∉ tokens ∧ ∀ times,
            ¬ RepeatCount.Denotes (Invocation.timesText (Request.given tokens)) times))) ∧
    (∀ error, step.value = .error error → error.isUsage = true →
      Request.FirstFault tokens error) ∧
    (∀ cause, "--ls" ∈ tokens → Host.entries world settings.scriptsDir = .error cause →
      step.value = .error (.scriptsDirectory settings.scriptsDir cause)) ∧
    (∀ error, step.value = .error error →
      (error.isUsage = true ∨ ∃ path cause, error = .scriptsDirectory path cause) →
      (∃ records : List LogRecord, step.events = records.map .log) ∧
        step.state = (reporter, world)) ∧
    ((∃ event ∈ step.events, ∀ record, event ≠ .log record) →
      ∀ error, step.value = .error error → ∃ cause, error = .output cause) := by
  intro step
  refine ⟨?verdict, ?fault, ?unread, ?silent, ?beyond⟩
  case verdict =>
    rw [← Invocation.exists_refused_iff settings]
    exact exists_congr fun error => harness_usage_iff
  case fault =>
    intro error failed usage
    exact (Invocation.firstFault_of_refused (harness_usage_iff.mp ⟨failed, usage⟩)).2.2
  case unread =>
    intro cause wished unread
    have asked := Request.ofTokens_of_listing .defaults wished
    exact congrArg Step.value (harness_run_of_unread asked unread)
  case silent =>
    intro error failed early
    -- Neither kind of error is about the output.
    have elsewhere : ¬ ∃ cause, error = .output cause := by
      rintro ⟨cause, rfl⟩
      simp [LaunchError.isUsage] at early
    obtain ⟨records, told⟩ := (harness_silent_of_error failed).resolve_left elsewhere
    exact ⟨⟨records, congrArg Step.events told⟩, congrArg Step.state told⟩
  case beyond =>
    rintro ⟨event, happened, noRecord⟩ error failed
    refine (harness_silent_of_error failed).resolve_right ?_
    rintro ⟨records, told⟩
    -- Nothing but records would have happened.
    have logged : step.events = records.map .log := congrArg Step.events told
    rw [logged] at happened
    obtain ⟨record, _, rfl⟩ := List.mem_map.mp happened
    exact noRecord record rfl

end Launch

end Launcher
