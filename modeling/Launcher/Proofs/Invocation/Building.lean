import Launcher.Invocation
import Launcher.Proofs.RepeatCount
import Launcher.Proofs.Request.Verdict

/-! When options and positional arguments make up an invocation, and what is wrong with them when
they do not. -/

namespace Launcher.Invocation

open Options (lastGiven?)

/-- The text that says how often to run: the one given last, or else the one of every launch. -/
def timesText (pairs : List (String × String)) : String := (lastGiven? pairs "repeat").getD "1"

/-- How often to run is told by the text that denotes it. -/
theorem timesOf_eq_ok_of_get? {options : Options} {text : String}
    (given : options.get? repeatKey = some text) (times : Nat) :
    timesOf options = .ok times ↔ RepeatCount.Denotes text times := by
  -- The text is there, and reading it decides.
  rw [timesOf, given, ← RepeatCount.read?_eq_some_iff]
  cases read : RepeatCount.read? text <;> simp [read]

/-- A text that denotes no number of repetitions is refused as it is. -/
theorem timesOf_eq_error_of_get? {options : Options} {text : String}
    (given : options.get? repeatKey = some text) (error : LaunchError) :
    timesOf options = .error error ↔
      error = .invalidRepeat text ∧ ∀ times, ¬ RepeatCount.Denotes text times := by
  -- Reading fails exactly if no number is denoted.
  have unread : RepeatCount.read? text = none ↔ ∀ times, ¬ RepeatCount.Denotes text times := by
    simp only [Option.eq_none_iff_forall_ne_some, ne_eq, RepeatCount.read?_eq_some_iff]
  rw [timesOf, given, ← unread]
  cases read : RepeatCount.read? text <;> simp [read, eq_comm]

/-- The text that says how often to run is the value of its option. -/
theorem get?_repeat (pairs : List (String × String)) :
    (Options.defaults.setAll pairs).get? repeatKey = some (timesText pairs) := by
  -- The store starts with one repetition, and what is given last overrides it.
  have start : Options.defaults.get? "repeat" = some "1" := by decide
  rw [Options.get?_setAll, repeatKey, start, timesText]
  cases lastGiven? pairs "repeat" <;> rfl

/-- The text given last tells how often to run, if it denotes a number. -/
theorem timesOf_eq_ok_iff (pairs : List (String × String)) (times : Nat) :
    timesOf (Options.defaults.setAll pairs) = .ok times ↔
      RepeatCount.Denotes (timesText pairs) times :=
  timesOf_eq_ok_of_get? (get?_repeat pairs) times

/-- The text given last is refused as it is, if it denotes no number. -/
theorem timesOf_eq_error_iff (pairs : List (String × String)) (error : LaunchError) :
    timesOf (Options.defaults.setAll pairs) = .error error ↔
      error = .invalidRepeat (timesText pairs) ∧
        ∀ times, ¬ RepeatCount.Denotes (timesText pairs) times :=
  timesOf_eq_error_of_get? (get?_repeat pairs) error

/-- Without a text of its own, a launch is run once, so only a text that was given is refused. -/
theorem lastGiven?_of_undenoted {pairs : List (String × String)}
    (undenoted : ∀ times, ¬ RepeatCount.Denotes (timesText pairs) times) :
    lastGiven? pairs "repeat" = some (timesText pairs) := by
  cases given : lastGiven? pairs "repeat" with
  | none =>
    -- The text that stands in denotes one run.
    have standing : timesText pairs = "1" := by rw [timesText, given, Option.getD_none]
    exact absurd (standing ▸ RepeatCount.denotes_one) (undenoted 1)
  | some text => rw [timesText, given, Option.getD_some]

variable (settings : Settings) (options : Options) (positionals : List String)

/-- An invocation is made up of a plan, a script and a number of repetitions. -/
theorem harness_eq_ok_iff (invocation : Invocation) :
    harness settings options positionals = .ok invocation ↔
      ∃ plan script spare times, positionals = plan :: script :: spare ∧
        timesOf options = .ok times ∧
        invocation = ⟨harnessCommand settings options plan script, times⟩ := by
  match positionals with
  | [] => simp [harness]
  | [plan] => simp [harness]
  | plan :: script :: spare =>
    -- With a plan and a script, the number of repetitions decides.
    cases counted : timesOf options with
    | error error => simp [harness, counted, bind, Except.bind]
    | ok times =>
      simp [harness, counted, bind, Except.bind, pure, Except.pure, eq_comm]

/-- What is missing is complained about in order: the plan, the script, the number of runs. -/
theorem harness_eq_error_iff (error : LaunchError) :
    harness settings options positionals = .error error ↔
      (positionals = [] ∧ error = .missingArgument "plan") ∨
      (positionals.length = 1 ∧ error = .missingArgument "script_name") ∨
      (2 ≤ positionals.length ∧ timesOf options = .error error) := by
  -- The number of repetitions only counts where there is a plan and a script.
  match positionals with
  | [] => simp [harness, eq_comm]
  | [plan] => simp [harness, eq_comm]
  | plan :: script :: spare =>
    cases counted : timesOf options with
    | error cause => simp [harness, counted, bind, Except.bind]
    | ok times => simp [harness, counted, bind, Except.bind, pure, Except.pure]

/-- Tokens ask for an invocation, by the options and the positional arguments that they give. -/
structure Asks (settings : Settings) (tokens : List String) (options : Options)
    (positionals : List String) (invocation : Invocation) : Prop where
  /-- The tokens ask for a launch. -/
  asked : Request.ofTokens .defaults tokens = .ok (.launch options positionals)
  /-- The options and positional arguments make up the invocation. -/
  built : harness settings options positionals = .ok invocation

namespace Asks

variable {settings options positionals} {tokens : List String} {invocation : Invocation}

/-- Tokens that ask for an invocation settle nothing but that, and give all its options and
positional arguments. -/
theorem given (asks : Asks settings tokens options positionals invocation) :
    (∀ token ∈ tokens, ¬ Token.Settles token) ∧
      options = Options.defaults.setAll (Request.given tokens) ∧
      positionals = Request.positionals tokens := by
  have verdict := Request.verdict_ofTokens .defaults tokens
  rw [asks.asked] at verdict
  -- Only where nothing settles the request is a launch asked for.
  cases verdict with
  | launch noListing unsettled => exact ⟨unsettled, rfl, rfl⟩

end Asks

end Launcher.Invocation
