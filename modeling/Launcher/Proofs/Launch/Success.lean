import Launcher.Proofs.Launch.Independence
import Launcher.Proofs.Reporter.Untroubled

/-! A launch that succeeds over whatever sinks did all that it does over sinks that never fail. -/

namespace Launcher.Launch

variable {δ ω α : Type} [Sink δ]

/-- A launch that prints lines, to end with a result, ends with it only if it delivered them. -/
theorem delivery_of_printed {printing : Printing δ Unit} {stream : Stream} {lines : List String}
    {value result : α} {start : Reporter δ × ω}
    (same : printing.run.run start.1 = (Reporter.deliver stream lines).run.run start.1)
    (succeeds : ((do
      print printing
      return value : Launching δ ω α).run.run start).value = .ok result) :
    result = value ∧ ((do
      print printing
      return value : Launching δ ω α).run.run start).events = Reporter.delivery stream lines := by
  -- The lines are offered as in a delivery, by the assumption.
  have printed : (print printing : Launching δ ω Unit).run.run start =
      let step := (Reporter.deliver stream lines).run.run start.1
      ⟨step.value.mapError LaunchError.output, step.events, (step.state, start.2)⟩ := by
    rw [print_run, same]
  obtain ⟨done, first, ended⟩ := Action.ok_of_run_bind succeeds
  -- Printing succeeded, so it was a delivery that did.
  have delivered : ((Reporter.deliver stream lines).run.run start.1).value = .ok () := by
    rw [printed] at first
    cases outcome : ((Reporter.deliver stream lines).run.run start.1).value with
    | ok done => rfl
    | error cause => simp [outcome, Except.mapError] at first
  refine ⟨(Except.ok.inj ended).symm, ?_⟩
  rw [Action.run_bind_of_ok first, printed]
  simp only [Reporter.events_deliver delivered]
  exact List.append_nil _

/-- Handing a report over succeeds only if no failure is held back and the report is delivered. -/
theorem handing_run_of_ok {report : Report} {state : Reporter δ × ω} {result : Option Report}
    (succeeds : ((handing report : Launching δ ω (Option Report)).run.run state).value =
      .ok result) :
    state.1.held = none ∧ result = some report ∧
      ((handing report : Launching δ ω (Option Report)).run.run state).events =
        Reporter.delivery .out (Reporter.reportLines state.1.json report) := by
  cases held : state.1.held with
  | none => exact ⟨rfl, delivery_of_printed (Reporter.summary_run_of_none held report) succeeds⟩
  | some cause =>
    -- A failure that is held back would end the launch in place of the report.
    have failed : ((handing report : Launching δ ω (Option Report)).run.run state).value =
        .error (.output cause) := congrArg Step.value (summary_run_of_held held report state.2)
    rw [failed] at succeeds
    cases succeeds

variable [Host ω] {settings : Settings} {tokens : List String} {start : Reporter δ × ω}
  {result : Option Report}

/-- A launch that runs its command and succeeds told of all its runs, and reports on them. -/
theorem ran_of_asks {options : Options} {positionals : List String} {invocation : Invocation}
    (asks : Invocation.Asks settings tokens options positionals invocation)
    (succeeds : ((harness settings tokens : Launching δ ω (Option Report)).run.run start).value =
      .ok result) :
    let run := Run.children invocation.command invocation.times start.2
    let report := reportOn invocation.command invocation.times run
    result = some report ∧
      ((harness settings tokens : Launching δ ω (Option Report)).run.run start).events =
        runningEvents positionals invocation run start.1.json ++
          Reporter.delivery .out (Reporter.reportLines start.1.json report) := by
  intro run report
  rw [harness_run_of_asks asks] at succeeds ⊢
  cases shown : ((Reporter.command invocation.command).run.run start.1).value with
  | error cause =>
    -- A command that cannot be shown ends the launch.
    rw [showing_run_of_error shown] at succeeds
    cases succeeds
  | ok done =>
    simp only [showing_run_of_ok shown, perform_bind_run, Run.repeated_run] at succeeds ⊢
    obtain ⟨calm, reported, delivered⟩ := handing_run_of_ok succeeds
    -- Nothing is held back behind the rounds, so they went as foreseen.
    have mode : ((Reporter.command invocation.command).run.run start.1).state.json =
        start.1.json := by
      rw [Reporter.command_run]
      exact (Reporter.Forthright.deliver _ _).mode start.1
    have rounds := Reporter.untroubled_rounds invocation.command 0 run
      ((Reporter.command invocation.command).run.run start.1).state
    rw [mode] at rounds
    refine ⟨reported, ?_⟩
    rw [delivered, rounds.events calm, rounds.json, mode]
    simp only [runningEvents, List.append_assoc]
    rfl

/-- A launch that succeeds takes one of the courses that it takes over sinks that never fail. -/
theorem course_of_ok
    (succeeds : ((harness settings tokens : Launching δ ω (Option Report)).run.run start).value =
      .ok result) :
    ∃ events next, Course settings tokens start.2 (.ok result) events next ∧
      ((harness settings tokens : Launching δ ω (Option Report)).run.run start).events =
        events start.1.json := by
  -- A success asked for scripts, for help or for runs, and each of them is a course.
  cases asked : Request.ofTokens .defaults tokens with
  | error error =>
    rw [harness_run_of_senseless asked] at succeeds
    cases succeeds
  | ok request =>
    cases request with
    | listScripts =>
      cases found : Host.entries start.2 settings.scriptsDir with
      | error cause =>
        rw [harness_run_of_unread asked found] at succeeds
        cases succeeds
      | ok entries =>
        have listed := listScripts_run (δ := δ) found settings.scriptExtension
        simp only [harness_run_of_asked asked, carryOut,
          Action.run_bind_of_ok (congrArg Step.value listed), listed] at succeeds ⊢
        -- The names are there, so all that is left is to print them.
        have same := Reporter.scripts_run (Catalog.scripts settings.scriptExtension entries) start.1
        obtain ⟨rfl, delivered⟩ := delivery_of_printed same succeeds
        refine ⟨_, _, .listed asked found, ?_⟩
        rw [delivered]
        rfl
    | help =>
      rw [harness_run_of_asked asked, carryOut] at succeeds ⊢
      have same := Reporter.usage_run usageText start.1
      obtain ⟨rfl, delivered⟩ := delivery_of_printed same succeeds
      exact ⟨_, _, .helped asked, delivered⟩
    | launch options positionals =>
      cases built : Invocation.harness settings options positionals with
      | error error =>
        -- Without a command the launch is refused, which is no success.
        have refused : Invocation.Refused settings tokens error :=
          .inr ⟨options, positionals, asked, built⟩
        obtain ⟨records, told⟩ := harness_run_of_refused (δ := δ) (ω := ω) refused start
        rw [told] at succeeds
        cases succeeds
      | ok invocation =>
        obtain ⟨rfl, happened⟩ := ran_of_asks ⟨asked, built⟩ succeeds
        exact ⟨_, _, .launched asked built rfl rfl, happened⟩

end Launcher.Launch
