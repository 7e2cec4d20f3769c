import Launcher.Proofs.Reporter.Printing

/-! What the reporter gets across to sinks with limited room, and when it can tell that something
was left out. -/

namespace Launcher.Reporter

/-- The bytes that each stream is to take. -/
abbrev Load : Type := Stream → Bytes

namespace Load

/-- Nothing for either stream. -/
def empty : Load := fun _ => []

/-- Lines for one stream. -/
def lines (stream : Stream) (texts : List String) : Load := fun other =>
  if stream = other then texts.flatMap lineBytes else []

/-- A load and another one behind it. -/
def followedBy (first second : Load) : Load := fun stream => first stream ++ second stream

/-- Nothing behind a load adds nothing to it. -/
@[simp] theorem followedBy_empty (load : Load) : load.followedBy empty = load := by
  -- Nothing is added on either stream.
  funext stream
  simp [followedBy, empty]

/-- No lines are nothing. -/
@[simp] theorem lines_nil (stream : Stream) : lines stream [] = empty := by
  -- No lines are no bytes, on either stream.
  funext other
  simp [lines, empty]

/-- Lines are the first of them and the others behind it. -/
theorem lines_cons (stream : Stream) (text : String) (rest : List String) :
    lines stream (text :: rest) = (lines stream [text]).followedBy (lines stream rest) := by
  funext other
  -- On the stream of the lines both sides are the same bytes, and on the other one nothing.
  by_cases same : stream = other
  · simp [lines, followedBy, same]
  · simp [lines, followedBy, same]

end Load

/-- The reporter once a load has taken up its room. -/
def filled (reporter : Reporter BoundedSink) (load : Load) : Reporter BoundedSink :=
  { reporter with
    out := reporter.out.filled (load .out), err := reporter.err.filled (load .err) }

/-- Both sinks take everything and always deliver. -/
def Limitless (reporter : Reporter BoundedSink) : Prop :=
  ∀ stream, (reporter.sink stream).Limitless

/-- Both sinks have room for a load and deliver it. -/
def Ample (reporter : Reporter BoundedSink) (load : Load) : Prop :=
  ∀ stream, (reporter.sink stream).flushFails = false ∧
    (reporter.sink stream).fitting (load stream) = load stream

/-- Each sink has its part of a load take up its room. -/
@[simp] theorem sink_filled (reporter : Reporter BoundedSink) (load : Load) (stream : Stream) :
    (reporter.filled load).sink stream = (reporter.sink stream).filled (load stream) := by
  -- Each stream has its own sink and its own part of the load.
  cases stream <;> rfl

/-- Nothing takes up no room. -/
@[simp] theorem filled_empty (reporter : Reporter BoundedSink) :
    reporter.filled Load.empty = reporter := by
  -- A sink takes nothing without any change.
  simp [filled, Load.empty]

/-- Loads in a row take up their room one after the other. -/
theorem filled_followedBy (reporter : Reporter BoundedSink) (first second : Load) :
    reporter.filled (first.followedBy second) = (reporter.filled first).filled second := by
  -- Each sink takes its two parts as it takes their concatenation.
  simp [filled, Load.followedBy, BoundedSink.filled_append]

/-- Sinks that take everything still do so later. -/
theorem Limitless.filled {reporter : Reporter BoundedSink} (limitless : reporter.Limitless)
    (load : Load) : (reporter.filled load).Limitless := by
  -- Each sink stays without limit, whatever it takes.
  intro stream
  rw [sink_filled]
  exact (limitless stream).filled (load stream)

/-- Sinks that take everything have room for any load. -/
theorem Limitless.ample {reporter : Reporter BoundedSink} (limitless : reporter.Limitless)
    (load : Load) : reporter.Ample load :=
  fun stream => ⟨(limitless stream).2, (limitless stream).fitting (load stream)⟩

/-- There is room for loads in a row exactly if there is for the first, and for the second then. -/
theorem ample_followedBy (reporter : Reporter BoundedSink) (first second : Load) :
    reporter.Ample (first.followedBy second) ↔
      reporter.Ample first ∧ (reporter.filled first).Ample second := by
  -- Taking up room does not change whether a sink delivers.
  have delivers : ∀ stream, ((reporter.filled first).sink stream).flushFails =
      (reporter.sink stream).flushFails := by
    intro stream
    rw [sink_filled]
    rfl
  -- There is room for both parts if there is for the first, and for the second in what that leaves.
  constructor
  · intro ample
    refine ⟨fun stream => ?_, fun stream => ?_⟩
    · exact ⟨(ample stream).1, ((BoundedSink.fitting_append_eq_iff _ _ _).mp (ample stream).2).1⟩
    · rw [delivers, sink_filled]
      exact ⟨(ample stream).1, ((BoundedSink.fitting_append_eq_iff _ _ _).mp (ample stream).2).2⟩
  · rintro ⟨head, tail⟩ stream
    have last := (tail stream).2
    rw [sink_filled] at last
    exact ⟨(head stream).1,
      (BoundedSink.fitting_append_eq_iff _ _ _).mpr ⟨(head stream).2, last⟩⟩

/-- Where there is room for a load, there is room for the start of it. -/
theorem Ample.of_isPrefix {reporter : Reporter BoundedSink} {load start : Load}
    (ample : reporter.Ample load) (starts : ∀ stream, start stream <+: load stream) :
    reporter.Ample start := by
  intro stream
  obtain ⟨rest, whole⟩ := starts stream
  -- If a whole fits, then so does each of its beginnings.
  have fits := (ample stream).2
  rw [← whole, BoundedSink.fitting_append_eq_iff] at fits
  exact ⟨(ample stream).1, fits.1⟩

/-- A step is an attempt to print a load. -/
structure Prints (load : Load) (before : Reporter BoundedSink)
    (step : Step (Reporter BoundedSink) (Except Cause Unit)) : Prop where
  /-- The load takes up its room, and nothing else changes. -/
  state : step.state = before.filled load
  /-- Each stream takes what there is room for. -/
  written : ∀ stream, step.events.written stream = (before.sink stream).fitting (load stream)
  /-- Success means that there was room for everything. -/
  complete : step.value = .ok () →
    ∀ stream, (before.sink stream).fitting (load stream) = load stream
  /-- Sinks with room for everything lead to success. -/
  succeeds : before.Ample load → step.value = .ok ()

namespace Prints

variable {before : Reporter BoundedSink} {first second : Load}

/-- An attempt that succeeds and one behind it print both loads. -/
theorem followedBy {step later : Step (Reporter BoundedSink) (Except Cause Unit)}
    (prints : Prints first before step) (succeeded : step.value = .ok ())
    (more : Prints second step.state later) :
    Prints (first.followedBy second) before
      ⟨later.value, step.events ++ later.events, later.state⟩ := by
  -- The second load finds the sinks as the first one left them.
  have between : ∀ stream, step.state.sink stream = (before.sink stream).filled (first stream) := by
    intro stream
    rw [prints.state, sink_filled]
  refine ⟨?_, ?_, ?_, ?_⟩
  · rw [filled_followedBy, ← prints.state]
    exact more.state
  · intro stream
    rw [Transcript.written_append, prints.written, more.written, between, Load.followedBy,
      BoundedSink.fitting_append]
  · -- If both were complete, then so is their concatenation.
    intro ended stream
    rw [Load.followedBy, BoundedSink.fitting_append, prints.complete succeeded, ← between,
      more.complete ended]
  · intro ample
    rw [ample_followedBy, ← prints.state] at ample
    exact more.succeeds ample.2

/-- Behind an attempt that failed, a load makes no difference if its streams have no room left. -/
theorem absorbs {step : Step (Reporter BoundedSink) (Except Cause Unit)} {cause : Cause}
    (prints : Prints first before step) (failed : step.value = .error cause)
    (full : ∀ stream, second stream = [] ∨
      ((before.sink stream).filled (first stream)).room = some 0) :
    Prints (first.followedBy second) before step := by
  -- On each stream the load is nothing, or finds no room.
  have nothing : ∀ stream,
      ((before.sink stream).filled (first stream)).fitting (second stream) = [] := by
    intro stream
    rcases full stream with none | used
    · rw [none, BoundedSink.fitting_nil]
    · exact BoundedSink.fitting_of_full used _
  have unchanged : ∀ stream, ((before.sink stream).filled (first stream)).filled (second stream) =
      (before.sink stream).filled (first stream) := by
    intro stream
    rcases full stream with none | used
    · rw [none, BoundedSink.filled_nil]
    · exact BoundedSink.filled_of_full used _
  refine ⟨?_, ?_, ?_, ?_⟩
  · -- The sinks are as they were, one by one.
    rw [prints.state, filled_followedBy]
    have out := unchanged .out
    have err := unchanged .err
    simp only [sink] at out err
    simp only [filled, out, err]
  · intro stream
    rw [prints.written, Load.followedBy, BoundedSink.fitting_append, nothing, List.append_nil]
  · intro ended
    rw [failed] at ended
    cases ended
  · -- With room for both loads, the attempt would not have failed.
    intro ample
    have ended := prints.succeeds ((ample_followedBy _ _ _).mp ample).1
    rw [failed] at ended
    cases ended

end Prints

/-- Writing a line prints it. -/
theorem prints_writeLine (stream : Stream) (text : String) (before : Reporter BoundedSink) :
    Prints (Load.lines stream [text]) before ((writeLine stream text).run.run before) := by
  rw [writeLine_run]
  have offered : [text].flatMap lineBytes = lineBytes text := by simp
  -- The sink behind the stream gets the bytes, and the other one is left alone.
  refine ⟨?_, ?_, ?_, ?_⟩
  · show before.withSink stream ((before.sink stream).take (lineBytes text)).2 = _
    rw [BoundedSink.take_state]
    cases stream <;> simp [withSink, sink, filled, Load.lines]
  · intro other
    show Transcript.written [.write stream
      (((before.sink stream).take (lineBytes text)).1.taken (lineBytes text)) _] other = _
    rw [BoundedSink.taken_take, Transcript.written_write_cons, Transcript.written_nil,
      List.append_nil, Load.lines, offered]
    by_cases same : stream = other
    · rw [if_pos same, if_pos same, same]
    · rw [if_neg same, if_neg same, BoundedSink.fitting_nil]
  · intro ended other
    have taken := BoundedSink.fitting_of_taken (resultOf_eq_ok.mp ended)
    rw [Load.lines, offered]
    by_cases same : stream = other
    · rw [if_pos same, ← same, taken]
    · rw [if_neg same, BoundedSink.fitting_nil]
  · -- A sink with room for the line takes all of it.
    intro ample
    have fits := (ample stream).2
    rw [Load.lines, if_pos rfl, offered] at fits
    exact resultOf_eq_ok.mpr (BoundedSink.taken_of_fitting fits)

/-- A line that fails to be written leaves no room behind it. -/
theorem full_of_writeLine {stream : Stream} {text : String} {before : Reporter BoundedSink}
    {cause : Cause} (failed : ((writeLine stream text).run.run before).value = .error cause) :
    ((before.sink stream).filled (lineBytes text)).room = some 0 := by
  -- The failure is the answer of the sink behind the stream.
  have cut : ((before.sink stream).take (lineBytes text)).1.failure? = some cause := by
    have known : resultOf ((before.sink stream).take (lineBytes text)).1.failure? =
        .error cause := failed
    rw [← causeOf_resultOf (BoundedSink.take _ _).1.failure?, known]
    rfl
  exact BoundedSink.room_of_cut cut

/-- Asking for delivery prints nothing. -/
theorem prints_flush (stream : Stream) (before : Reporter BoundedSink) :
    Prints Load.empty before ((flush stream).run.run before) := by
  -- A flush takes up no room, and fails only if the sink does not deliver.
  rw [flush_run]
  refine ⟨?_, ?_, ?_, ?_⟩
  · rw [filled_empty]
    cases stream <;> rfl
  · intro other
    simp [Load.empty]
  · intro _ other
    simp [Load.empty]
  · intro ample
    have delivers := (ample stream).1
    simp [Sink.flush, delivers, resultOf]

/-- Writing lines prints them, also if a failure ends the attempt among them. -/
theorem prints_writeLines (stream : Stream) (texts : List String)
    (before : Reporter BoundedSink) :
    Prints (Load.lines stream texts) before ((writeLines stream texts).run.run before) := by
  induction texts generalizing before with
  | nil =>
    rw [Load.lines_nil]
    refine ⟨(filled_empty before).symm, ?_, ?_, fun _ => rfl⟩
    · intro other
      exact (BoundedSink.fitting_nil _).symm
    · intro _ other
      exact BoundedSink.fitting_nil _
  | cons text rest ih =>
    have line := prints_writeLine stream text before
    rw [Load.lines_cons, writeLines]
    cases ended : ((writeLine stream text).run.run before).value with
    | ok value =>
      -- The later lines are written over the sinks that the first one left.
      rw [Action.run_bind_of_ok ended]
      exact line.followedBy ended (ih _)
    | error cause =>
      rw [Action.run_bind_of_error ended]
      have stopped : Prints (Load.lines stream [text]) before
          ⟨.error cause, ((writeLine stream text).run.run before).events,
            ((writeLine stream text).run.run before).state⟩ := ended ▸ line
      -- The line that failed has used up the room of the later ones.
      refine stopped.absorbs rfl fun other => ?_
      by_cases same : stream = other
      · right
        simpa [Load.lines, same] using full_of_writeLine ended
      · left
        simp [Load.lines, same]

/-- Lines that are delivered are printed. -/
theorem prints_deliver (stream : Stream) (texts : List String) (before : Reporter BoundedSink) :
    Prints (Load.lines stream texts) before ((deliver stream texts).run.run before) := by
  have written := prints_writeLines stream texts before
  rw [deliver]
  cases ended : ((writeLines stream texts).run.run before).value with
  | ok value =>
    rw [Action.run_bind_of_ok ended]
    simpa using written.followedBy ended (prints_flush stream _)
  | error cause =>
    -- Without delivery, nothing else is missing: asking for it prints nothing.
    rw [Action.run_bind_of_error ended]
    exact ended ▸ written

end Launcher.Reporter
