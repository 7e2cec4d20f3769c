import Launcher.Proofs.Launch.Carrying
import Launcher.Proofs.Reporter.Room

/-! A launch over sinks with limited room, beside the same launch without limits: what it takes for
the one to keep up with the other, and that launches in a row do if each of them does. -/

namespace Launcher.Launch

variable {ω α β : Type}

/-- Two reporters in the same mode that hold nothing back, of which one takes everything. -/
structure Matches (ideal real : Reporter BoundedSink) : Prop where
  /-- The first one takes everything. -/
  limitless : ideal.Limitless
  /-- They are in the same mode. -/
  json : real.json = ideal.json
  /-- The first one holds nothing back. -/
  idealCalm : ideal.held = none
  /-- The second one holds nothing back. -/
  calm : real.held = none

/-- A step beside the same step without limits, from a reporter that holds nothing back. -/
inductive Keeps (before : Reporter BoundedSink)
    (ideal real : Step (Reporter BoundedSink × ω) (Except LaunchError α)) : Prop where
  /-- Nothing was left out so far, and both go on alike. -/
  | along (value : real.value = ideal.value)
    (written : ∀ stream, real.events.written stream = ideal.events.written stream)
    (world : real.state.2 = ideal.state.2) (reporters : Matches ideal.state.1 real.state.1)
    (left : real.state.1 = before.filled real.events.written)
  /-- The sinks do not do for everything that is to be printed, and that is an error. -/
  | behind (cause : Cause) (failed : real.value = .error (.output cause))
    (written : ∀ stream, real.events.written stream <+: ideal.events.written stream)
    (short : ¬ before.Ample ideal.events.written)

/-- A launch keeps up with itself without limits, or fails. -/
def Follows (launch : Launching BoundedSink ω α) : Prop :=
  ∀ ideal real world, Matches ideal real →
    Keeps real (launch.run.run (ideal, world)) (launch.run.run (real, world))

/-- What the streams take before and after is a load behind another one. -/
theorem written_followedBy (earlier later : Transcript) :
    Transcript.written (earlier ++ later) =
      Reporter.Load.followedBy earlier.written later.written :=
  funext fun stream => Transcript.written_append earlier later stream

/-- What was written alike before makes no difference. -/
theorem Keeps.after {before between : Reporter BoundedSink}
    {ideal real : Step (Reporter BoundedSink × ω) (Except LaunchError α)}
    (keeps : Keeps between ideal real) {idealBefore realBefore : Transcript}
    (alike : ∀ stream, realBefore.written stream = idealBefore.written stream)
    (start : between = before.filled realBefore.written) :
    Keeps before ⟨ideal.value, idealBefore ++ ideal.events, ideal.state⟩
      ⟨real.value, realBefore ++ real.events, real.state⟩ := by
  cases keeps with
  | along value written world reporters left =>
    -- What was written before and what comes now are alike on both sides.
    refine .along value (fun stream => ?_) world reporters ?_
    · rw [Transcript.written_append, Transcript.written_append, alike, written]
    · rw [written_followedBy, Reporter.filled_followedBy, ← start]
      exact left
  | behind cause failed written short =>
    refine .behind cause failed (fun stream => ?_) fun ample => short ?_
    · rw [Transcript.written_append, Transcript.written_append, alike]
      exact (List.prefix_append_right_inj _).mpr (written stream)
    · -- Room for both parts is room for the second one behind the first.
      have same : idealBefore.written = realBefore.written :=
        funext fun stream => (alike stream).symm
      rw [written_followedBy, Reporter.ample_followedBy, same, ← start] at ample
      exact ample.2

/-- What an attempt writes, it also writes before whatever comes behind it. -/
theorem written_isPrefix_bind {σ : Type} (attempt : ExceptT LaunchError (Action σ) α)
    (next : α → ExceptT LaunchError (Action σ) β) (state : σ) (stream : Stream) :
    (attempt.run.run state).events.written stream <+:
      ((attempt >>= next).run.run state).events.written stream := by
  -- What comes behind an attempt that fails is nothing at all.
  cases ended : (attempt.run.run state).value with
  | ok value =>
    rw [Action.run_bind_of_ok ended, Transcript.written_append]
    exact List.prefix_append _ _
  | error error =>
    have same := congrArg (fun step => step.events.written stream)
      (Action.run_bind_of_error ended next)
    exact same ▸ List.prefix_rfl

namespace Follows

/-- A launch keeps up from states that match on the same machine. -/
theorem keeps {launch : Launching BoundedSink ω α} (follows : Follows launch)
    {ideal real : Reporter BoundedSink × ω} (reporters : Matches ideal.1 real.1)
    (same : real.2 = ideal.2) : Keeps real.1 (launch.run.run ideal) (launch.run.run real) := by
  -- Both run on the same machine, as the definition asks for.
  obtain ⟨idealReporter, world⟩ := ideal
  obtain ⟨realReporter, other⟩ := real
  obtain rfl : other = world := same
  exact follows idealReporter realReporter other reporters

/-- Launches in a row keep up if each of them does. -/
theorem bind {launch : Launching BoundedSink ω α} {next : α → Launching BoundedSink ω β}
    (first : Follows launch) (later : ∀ value, Follows (next value)) :
    Follows (launch >>= next) := by
  intro ideal real world start
  cases first ideal real world start with
  | along value written same reporters left =>
    cases ended : (launch.run.run (ideal, world)).value with
    | ok result =>
      rw [Action.run_bind_of_ok ended, Action.run_bind_of_ok (value.trans ended)]
      -- Both go on from states that match, on the same machine.
      exact ((later result).keeps reporters same).after written left
    | error error =>
      rw [Action.run_bind_of_error ended, Action.run_bind_of_error (value.trans ended)]
      exact .along rfl written same reporters left
  | behind cause failed written short =>
    -- The launch ends here, while without limits it may go on to write more.
    have more := written_isPrefix_bind launch next (ideal, world)
    rw [Action.run_bind_of_error failed]
    exact .behind cause rfl (fun stream => (written stream).trans (more stream))
      fun ample => short (ample.of_isPrefix more)

/-- What has nothing to do with the reporter keeps up. -/
theorem of_aside {launch : Launching BoundedSink ω α}
    (aside : ∀ world, ∃ value events next, (∀ stream, events.written stream = []) ∧
      ∀ reporter, launch.run.run (reporter, world) = ⟨value, events, (reporter, next)⟩) :
    Follows launch := by
  -- The step is the same for both reporters, and takes up no room in either.
  intro ideal real world start
  obtain ⟨value, events, next, silent, same⟩ := aside world
  have nothing : events.written = Reporter.Load.empty := funext silent
  rw [same ideal, same real]
  refine .along rfl (fun _ => rfl) rfl start ?_
  rw [nothing, Reporter.filled_empty]

/-- Giving a result keeps up. -/
theorem pure (value : α) : Follows (pure value : Launching BoundedSink ω α) :=
  of_aside fun world => ⟨.ok value, [], world, fun _ => rfl, fun _ => rfl⟩

/-- Giving a result or an error keeps up. -/
theorem settle (result : Except LaunchError α) :
    Follows (Launch.settle result : Launching BoundedSink ω α) :=
  of_aside fun world => ⟨result, [], world, fun _ => rfl, fun _ => rfl⟩

/-- Looking at the machine keeps up. -/
theorem look : Follows (perform (Action.read Prod.snd) : Launching BoundedSink ω ω) :=
  of_aside fun world => ⟨.ok world, [], world, fun _ => rfl, fun _ => rfl⟩

/-- Logging keeps up. -/
theorem logAll (records : List LogRecord) :
    Follows (Launch.logAll records : Launching BoundedSink ω Unit) := by
  induction records with
  | nil => exact pure ()
  | cons record rest ih =>
    -- A log record has nothing to do with the reporter.
    have one : Follows (ExceptT.lift (Action.log record) : Launching BoundedSink ω Unit) :=
      of_aside fun world => ⟨.ok (), [.log record], world, fun _ => rfl, fun _ => rfl⟩
    exact one.bind fun _ => ih

end Follows

end Launcher.Launch
