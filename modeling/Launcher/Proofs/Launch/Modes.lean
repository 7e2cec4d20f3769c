import Launcher.Proofs.Launch.Channels
import Launcher.Proofs.Report.Codes
import Launcher.Proofs.Run.Repetition

/-! A launch tells the same as text and in JSON mode: what is printed in one mode follows from what
is printed in the other. -/

namespace Launcher

/-- The records of a repetition are numbered. -/
theorem Run.map_index_records (command : CommandLine) (index : Nat) (run : List Child) :
    (records command index run).map Iteration.index = List.range' index run.length := by
  -- Each record has the index that follows the one before.
  induction run generalizing index with
  | nil => rfl
  | cons child rest ih =>
    rw [records, List.map_cons, ih, List.length_cons, List.range'_succ]
    rfl

namespace Launch

section Running

variable (positionals : List String) (invocation : Invocation) (run : List Child)

/-- As text, the command and the announcements of the runs stand before the report. -/
theorem written_out_runningEvents_text :
    (runningEvents positionals invocation run false).written .out =
      (Reporter.commandLine invocation.command ::
        (List.range run.length).map Reporter.startedLine).flatMap Reporter.lineBytes := by
  -- The announcements follow the records, whose indices count up from zero.
  have numbered := Run.map_index_records invocation.command 0 run
  rw [← List.range_eq_range'] at numbered
  rw [← numbered]
  simp [runningEvents, Reporter.written_roundsEvents, Reporter.progressStream, List.flatMap_map]

/-- As text, what stands beside the results before the report is why launches failed. -/
theorem written_err_runningEvents_text :
    (runningEvents positionals invocation run false).written .err =
      ((Run.records invocation.command 0 run).flatMap Reporter.failureLines).flatMap
        Reporter.lineBytes := by
  -- In text mode only the lines of failures go to this stream.
  simp [runningEvents, Reporter.written_roundsEvents, Reporter.progressStream, List.flatMap_assoc]

end Running

variable {δ ω : Type} [Sink δ] [Host ω]

/-- What a launch tells as text is what it tells in JSON mode by a value. -/
structure Agree (report : Report) (value : Json)
    (text json : Step (Reporter δ × ω) (Except LaunchError (Option Report))) : Prop where
  /-- Both give the same report. -/
  results : text.value = .ok (some report) ∧ json.value = .ok (some report)
  /-- Both launch the same, lead to the same children, and leave the same machine. -/
  runs : text.events.launches = json.events.launches ∧ text.state.2 = json.state.2
  /-- The results in JSON mode are the value on a line, and it tells of the report. -/
  line : Json.IsLine value (json.events.written .out) ∧ Report.ofJson? value = some report
  /-- The results as text are the command and the announcements of the runs, and then the exit codes
  that the value has, and a remark exactly if the value says that the repetition was interrupted. Of
  all that is printed as text, what comes before the exit codes is what stands beside the value. -/
  out : ∃ before after list, text.events = before ++ after ∧
    before.written .out =
      (Reporter.commandLine report.command ::
        (List.range report.iterations.length).map Reporter.startedLine).flatMap
          Reporter.lineBytes ∧
    after.written .out =
      ("return codes:" :: Reporter.codesText report.exitCodes ::
        if (value.member? "interrupted").bind Json.bool? = some true then
          ["interrupted after " ++ Decimal.ofNat report.iterations.length ++ " of " ++
            Decimal.ofNat report.times ++ " iterations"]
        else []).flatMap Reporter.lineBytes ∧
    Json.read? (Reporter.codesText report.exitCodes) = some list ∧
    value.member? "exit_codes" = some list ∧
    before.printed = json.events.written .err ∧ after.written .err = []
  /-- Beside the results as text stands why launches failed. -/
  err : text.events.written .err =
    (report.iterations.flatMap Reporter.failureLines).flatMap Reporter.lineBytes

/-- Over sinks that never fail, a launch that comes to run its command tells the same as text and in
JSON mode. -/
theorem modes_agree (settings : Settings) {tokens : List String} {options : Options}
    {positionals : List String} {invocation : Invocation}
    (asked : Request.ofTokens .defaults tokens = .ok (.launch options positionals))
    (built : Invocation.harness settings options positionals = .ok invocation) (world : ω)
    {textOut textErr jsonOut jsonErr : δ} (steadyTextOut : Sink.Steady textOut)
    (steadyTextErr : Sink.Steady textErr) (steadyJsonOut : Sink.Steady jsonOut)
    (steadyJsonErr : Sink.Steady jsonErr) :
    let launch : Launching δ ω (Option Report) := harness settings tokens
    let text := launch.run.run ({ json := false, out := textOut, err := textErr }, world)
    let json := launch.run.run ({ json := true, out := jsonOut, err := jsonErr }, world)
    ∃ report value, Agree report value text json := by
  intro launch text json
  have foreseen := Foreseen.of_built δ asked built world
  -- From here on, only the children count, and not how the machine came by them.
  generalize Run.children invocation.command invocation.times world = run at foreseen
  have told := foreseen _ (.ofSinks false steadyTextOut steadyTextErr)
  have reported := foreseen _ (.ofSinks true steadyJsonOut steadyJsonErr)
  let report := reportOn invocation.command invocation.times run
  have textEvents : text.events = runningEvents positionals invocation run false ++
      Reporter.delivery .out (Reporter.summaryLines report) := told.events
  have jsonEvents : json.events = runningEvents positionals invocation run true ++
      Reporter.delivery .out [report.toJson.render] := reported.events
  have launches : text.events.launches = json.events.launches := by
    simp [textEvents, jsonEvents, launches_runningEvents]
  have line : json.events.written .out = Reporter.lineBytes report.toJson.render := by
    simp [jsonEvents, written_out_runningEvents]
  have beside : json.events.written .err =
      (Reporter.progressLines report).flatMap Reporter.lineBytes := by
    simp [jsonEvents, written_err_runningEvents, report]
  have failures : text.events.written .err =
      (report.iterations.flatMap Reporter.failureLines).flatMap Reporter.lineBytes := by
    simp [textEvents, written_err_runningEvents_text, report, reportOn]
  -- As text, the report is delivered behind the progress, and this is where the exit codes start.
  have start : (runningEvents positionals invocation run false).written .out =
      (Reporter.commandLine report.command ::
        (List.range report.iterations.length).map Reporter.startedLine).flatMap
          Reporter.lineBytes := by
    rw [written_out_runningEvents_text]
    simp [report, reportOn]
  have stopped : (report.toJson.member? "interrupted").bind Json.bool? = some report.interrupted :=
    rfl
  have rest : (Reporter.delivery .out (Reporter.summaryLines report)).written .out =
      (Reporter.summaryLines report).flatMap Reporter.lineBytes := by simp
  have merged : (runningEvents positionals invocation run false).printed =
      json.events.written .err := by
    rw [beside, printed_runningEvents]
  refine ⟨report, report.toJson,
    { results := ⟨told.value, reported.value⟩
      runs := ⟨launches, told.world.trans reported.world.symm⟩
      line := ⟨line ▸ Json.isLine_render _, report.ofJson?_toJson⟩
      out := ⟨_, _, _, textEvents, start, ?_, Reporter.read?_codesText _, rfl, merged, by simp⟩
      err := failures }⟩
  rw [rest, stopped]
  simp [Reporter.summaryLines]

/-- Four runs are asked for; the first one cannot be started, the second one gives no exit code, and
the third one is interrupted. -/
theorem modes_agree_on_interruption :
    let machine : Rehearsal := { children := [⟨.notStarted .notFound, "noon", 0, [], []⟩,
      ⟨.withoutCode "stopped (not terminated) by signal: 19 (SIGSTOP)", "one", 3, [], []⟩,
      ⟨.signaled 2, "two", 5, utf8 "noise", []⟩] }
    let options := Options.defaults.set "repeat" "4"
    let launch : Launching BoundedSink Rehearsal (Option Report) :=
      harness {} ["GenMS", "alloc", "repeat=4"]
    let text := launch.run.run ({ json := false, out := {}, err := {} }, machine)
    let json := launch.run.run ({ json := true, out := {}, err := {} }, machine)
    Request.ofTokens .defaults ["GenMS", "alloc", "repeat=4"] =
        .ok (.launch options ["GenMS", "alloc"]) ∧
      (∃ invocation, Invocation.harness {} options ["GenMS", "alloc"] = .ok invocation ∧
        invocation.times = 4) ∧
      Sink.Steady ({} : BoundedSink) ∧
      ∃ report value, Agree report value text json ∧ report.exitCodes = [-1, -1, 130] ∧
        report.interrupted = true := by
  intro machine options launch text json
  have steady := BoundedSink.steady_unlimited
  have asked : Request.ofTokens .defaults ["GenMS", "alloc", "repeat=4"] =
      .ok (.launch options ["GenMS", "alloc"]) := by decide
  have countable : (Invocation.harness {} options ["GenMS", "alloc"]).toOption.map
      Invocation.times = some 4 := by decide
  obtain ⟨invocation, built, times⟩ := exists_ok_of_known countable
  obtain ⟨report, value, agree⟩ :=
    modes_agree {} asked built machine steady steady steady steady
  -- The codes of these three runs are computed; that the modes agree on them is the theorem.
  have known : text.value.toOption.map
      (Option.map fun report => (report.exitCodes, report.interrupted)) =
        some (some ([-1, -1, 130], true)) := by decide +kernel
  obtain ⟨result, ended, facts⟩ := exists_ok_of_known known
  obtain rfl : some report = result := Except.ok.inj (agree.results.1.symm.trans ended)
  obtain ⟨codes, interrupted⟩ := Prod.mk.inj (Option.some_inj.mp facts)
  exact ⟨asked, ⟨invocation, built, times⟩, steady, report, value, agree, codes, interrupted⟩

end Launch

end Launcher
