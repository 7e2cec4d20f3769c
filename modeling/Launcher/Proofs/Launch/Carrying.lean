import Launcher.Launch
import Launcher.Proofs.Reporter.Printing

/-! How a launch carries out its parts: what cannot fail, what is printed, and what its tokens ask
for. -/

namespace Launcher.Launch

variable {ω α β : Type}

/-- Giving a result or an error leaves no trace. -/
theorem settle_run {δ : Type} (result : Except LaunchError α) (state : Reporter δ × ω) :
    (settle result).run.run state = ⟨result, [], state⟩ := rfl

/-- Logging adds its records to what happened, and does nothing else. -/
theorem logAll_run {δ : Type} (records : List LogRecord) (state : Reporter δ × ω) :
    (logAll records).run.run state = ⟨.ok (), records.map .log, state⟩ := by
  induction records with
  | nil => rfl
  | cons record rest ih =>
    -- The first record is logged on its own, and the others behind it.
    have first : (ExceptT.lift (Action.log record) : Launching δ ω Unit).run.run state =
        ⟨.ok (), [.log record], state⟩ := rfl
    rw [logAll, Action.run_bind_of_ok (congrArg Step.value first), first]
    simp only [ih, List.singleton_append, List.map_cons]

/-- What cannot fail is carried out as it is. -/
theorem perform_run {δ : Type} (action : Action (Reporter δ × ω) α) (state : Reporter δ × ω) :
    (perform action).run.run state =
      ⟨.ok (action.run state).value, (action.run state).events, (action.run state).state⟩ := by
  -- An action of its own cannot fail.
  have performed : (perform action).run.run state =
      ⟨.ok (action.run state).value, (action.run state).events ++ [], (action.run state).state⟩ :=
    rfl
  rw [performed, List.append_nil]

/-- What cannot fail is followed by what comes next. -/
theorem perform_bind_run {δ : Type} (action : Action (Reporter δ × ω) α)
    (next : α → Launching δ ω β) (state : Reporter δ × ω) :
    (perform action >>= next).run.run state =
      let first := action.run state
      let second := (next first.value).run.run first.state
      ⟨second.value, first.events ++ second.events, second.state⟩ := by
  -- The action succeeds, so that what comes behind it always runs.
  rw [Action.run_bind_of_ok (congrArg Step.value (perform_run action state)), perform_run]

/-- Printing takes place beside the machine, and its failure ends the launch. -/
theorem print_run {δ : Type} (printing : Printing δ α) (state : Reporter δ × ω) :
    (print printing : Launching δ ω α).run.run state =
      let step := printing.run.run state.1
      ⟨step.value.mapError LaunchError.output, step.events, (step.state, state.2)⟩ := by
  -- Printing changes the reporter and leaves the machine.
  have printed : (print printing : Launching δ ω α).run.run state =
      ⟨(printing.run.run state.1).value.mapError LaunchError.output,
        (printing.run.run state.1).events ++ [], ((printing.run.run state.1).state, state.2)⟩ := rfl
  rw [printed, List.append_nil]

/-- A failure that was held back ends a launch in place of the report. -/
theorem summary_run_of_held {δ : Type} [Sink δ] {reporter : Reporter δ} {cause : Cause}
    (held : reporter.held = some cause) (report : Report) (world : ω) :
    (do Launch.print (Reporter.summary report)
        return some report : Launching δ ω (Option Report)).run.run (reporter, world) =
      ⟨.error (.output cause), [], ({ reporter with held := none }, world)⟩ := by
  -- The failure held back takes the place of the report, so that the launch ends here.
  have failed : (Launch.print (Reporter.summary report) : Launching δ ω Unit).run.run
      (reporter, world) =
        ⟨.error (.output cause), [], ({ reporter with held := none }, world)⟩ := by
    rw [print_run]
    simp only [Reporter.summary_run_of_some held]
    rfl
  rw [Action.run_bind_of_error (congrArg Step.value failed), failed]

section Asking

variable {δ : Type} [Host ω]

/-- The scripts of a directory that can be read are listed, and their number is logged. -/
theorem listScripts_run {directory : Path} {state : Reporter δ × ω} {entries : List DirectoryEntry}
    (read : Host.entries state.2 directory = .ok entries) (extension : String) :
    let names := Catalog.scripts extension entries
    (listScripts directory extension : Launching δ ω (List String)).run.run state =
      ⟨.ok names, [.log (.listedScripts directory.text names.length)], state⟩ := by
  -- The machine that is looked at is the one that there is.
  have seen : (Action.read Prod.snd : Action (Reporter δ × ω) ω).run state = ⟨state.2, [], state⟩ :=
    rfl
  intro names
  rw [listScripts, perform_bind_run]
  simp only [seen, read]
  rfl

/-- A directory that cannot be read ends a list of scripts before anything happens. -/
theorem listScripts_run_of_error {directory : Path} {state : Reporter δ × ω} {cause : Cause}
    (unread : Host.entries state.2 directory = .error cause) (extension : String) :
    (listScripts directory extension : Launching δ ω (List String)).run.run state =
      ⟨.error (.scriptsDirectory directory cause), [], state⟩ := by
  have seen : (Action.read Prod.snd : Action (Reporter δ × ω) ω).run state = ⟨state.2, [], state⟩ :=
    rfl
  rw [listScripts, perform_bind_run]
  -- Reading the directory is the first thing done, and there is nothing behind its failure.
  simp only [seen, unread]
  rfl

variable [Sink δ]

/-- Carries out what was asked for. -/
def carryOut (settings : Settings) : Request → Launching δ ω (Option Report)
  | .listScripts => do
    let names ← Launch.listScripts settings.scriptsDir settings.scriptExtension
    Launch.print (Reporter.scripts names)
    return none
  | .help => do
    Launch.print (Reporter.usage usageText)
    return none
  | .launch options positionals => do
    let built := Invocation.harness settings options positionals
    Launch.logAll (Invocation.remarks positionals built)
    let invocation ← Launch.settle built
    Launch.print (Reporter.command invocation.command)
    let report ← perform (Run.repeated Reporter.observer invocation.command invocation.times)
    Launch.print (Reporter.summary report)
    return some report

/-- The launcher reads its tokens and carries out what they ask for. -/
theorem harness_eq (settings : Settings) (tokens : List String) :
    (harness settings tokens : Launching δ ω (Option Report)) =
      Launch.settle (Request.ofTokens .defaults tokens) >>= carryOut settings := rfl

/-- Tokens that make no sense are refused, and nothing happens. -/
theorem harness_run_of_senseless {settings : Settings} {tokens : List String} {error : LaunchError}
    (asked : Request.ofTokens .defaults tokens = .error error) (state : Reporter δ × ω) :
    (harness settings tokens : Launching δ ω (Option Report)).run.run state =
      ⟨.error error, [], state⟩ := by
  -- The tokens are read before anything happens.
  rw [harness_eq, asked]
  exact Action.run_bind_of_error rfl _

/-- What tokens that make sense ask for is carried out, and nothing else happens. -/
theorem harness_run_of_asked {settings : Settings} {tokens : List String} {request : Request}
    (asked : Request.ofTokens .defaults tokens = .ok request) (state : Reporter δ × ω) :
    (harness settings tokens : Launching δ ω (Option Report)).run.run state =
      (carryOut settings request).run.run state := by
  -- Reading the tokens leaves no events.
  rw [harness_eq, asked]
  exact Action.run_bind_of_ok rfl _

end Asking

end Launcher.Launch
