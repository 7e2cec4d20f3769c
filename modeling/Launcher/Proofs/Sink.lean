import Launcher.Sink

/-! Laws of sinks, above all of bounded ones: what they take of the bytes offered to them. -/

namespace Launcher

/-- Without a failure, all the bytes that were offered are taken. -/
theorem Receipt.taken_of_sound {receipt : Receipt} (sound : receipt.failure? = none)
    (offered : Bytes) : receipt.taken offered = offered := by
  -- Bytes that were cut off come with a failure.
  cases receipt with
  | complete => rfl
  | cut count cause => cases sound

/-- A sink that takes everything and delivers it, whenever and however often it is asked to. -/
def Sink.Steady {δ : Type} [Sink δ] (sink : δ) : Prop :=
  -- Whatever is asked of such a sink leaves one of its kind.
  ∃ Sound : δ → Prop, Sound sink ∧ ∀ sink, Sound sink →
    (∀ bytes, (Sink.write sink bytes).1.failure? = none ∧ Sound (Sink.write sink bytes).2) ∧
    (Sink.flush sink).1 = none ∧ Sound (Sink.flush sink).2

namespace Sink.Steady

variable {δ : Type} [Sink δ] {sink : δ}

/-- A steady sink takes what it is offered, and stays steady. -/
theorem write (steady : Steady sink) (bytes : Bytes) :
    (Sink.write sink bytes).1.failure? = none ∧ Steady (Sink.write sink bytes).2 := by
  -- What keeps the sink sound is still there afterwards.
  obtain ⟨Sound, sound, kept⟩ := steady
  obtain ⟨taken, left⟩ := (kept sink sound).1 bytes
  exact ⟨taken, Sound, left, kept⟩

/-- A steady sink delivers, and stays steady. -/
theorem flush (steady : Steady sink) :
    (Sink.flush sink).1 = none ∧ Steady (Sink.flush sink).2 := by
  -- What keeps the sink sound is still there afterwards.
  obtain ⟨Sound, sound, kept⟩ := steady
  obtain ⟨delivered, left⟩ := (kept sink sound).2
  exact ⟨delivered, Sound, left, kept⟩

end Sink.Steady

namespace BoundedSink

/-- The part of some bytes that there is room for. -/
def fitting (sink : BoundedSink) (bytes : Bytes) : Bytes :=
  match sink.room with
  | none => bytes
  | some room => bytes.take room

/-- The sink once some bytes have taken up their room. -/
def filled (sink : BoundedSink) (bytes : Bytes) : BoundedSink :=
  { sink with room := sink.room.map (· - bytes.length) }

/-- A sink that takes everything and always delivers. -/
def Limitless (sink : BoundedSink) : Prop := sink.room = none ∧ sink.flushFails = false

/-- No bytes at all always fit. -/
@[simp] theorem fitting_nil (sink : BoundedSink) : sink.fitting [] = [] := by
  -- There is room for nothing at all.
  cases limit : sink.room <;> simp [fitting, limit]

/-- No bytes at all take up no room. -/
@[simp] theorem filled_nil (sink : BoundedSink) : sink.filled [] = sink := by
  -- Nothing uses up no room.
  cases sink with
  | mk room flushFails shortage => cases room <;> rfl

/-- What fits of bytes in a row is what fits of the first, and what fits of the others then. -/
theorem fitting_append (sink : BoundedSink) (bytes more : Bytes) :
    sink.fitting (bytes ++ more) = sink.fitting bytes ++ (sink.filled bytes).fitting more := by
  cases limit : sink.room with
  | none => simp [fitting, filled, limit]
  | some room =>
    -- Taking from a row takes from its first part, and then what is left to take from the second.
    simp [fitting, filled, limit, List.take_append]

/-- Bytes in a row take up their room one after the other. -/
theorem filled_append (sink : BoundedSink) (bytes more : Bytes) :
    sink.filled (bytes ++ more) = (sink.filled bytes).filled more := by
  -- The room that is left is counted down twice, or in one go.
  cases limit : sink.room with
  | none => simp [filled, limit]
  | some room => simp [filled, limit, Nat.sub_sub]

/-- What fits comes from the front. -/
theorem fitting_isPrefix (sink : BoundedSink) (bytes : Bytes) : sink.fitting bytes <+: bytes := by
  -- What there is room for is taken from the front.
  cases limit : sink.room with
  | none => simp [fitting, limit]
  | some room => simpa [fitting, limit] using List.take_prefix room bytes

/-- What a sink takes is what there is room for. -/
theorem taken_take (sink : BoundedSink) (bytes : Bytes) :
    (sink.take bytes).1.taken bytes = sink.fitting bytes := by
  cases limit : sink.room with
  | none => simp [take, fitting, limit, Receipt.taken]
  | some room =>
    -- Taking as many bytes as there is room for takes all of them if they fit.
    by_cases fits : bytes.length ≤ room
    · simp [take, fitting, limit, fits, Receipt.taken, List.take_of_length_le fits]
    · simp [take, fitting, limit, fits, Receipt.taken]

/-- What a sink was offered takes up its room, even if it was too much. -/
theorem take_state (sink : BoundedSink) (bytes : Bytes) :
    (sink.take bytes).2 = sink.filled bytes := by
  cases sink with
  | mk limit flushFails shortage =>
    cases limit with
    | none => rfl
    | some room =>
      by_cases fits : bytes.length ≤ room
      · simp [take, filled, fits]
      · -- Bytes that exceed the room leave none, and so does the subtraction.
        have used : room - bytes.length = 0 := by omega
        simp [take, filled, fits, used]

/-- Bytes in a row fit exactly if the first ones fit and the others fit then. -/
theorem fitting_append_eq_iff (sink : BoundedSink) (bytes more : Bytes) :
    sink.fitting (bytes ++ more) = bytes ++ more ↔
      sink.fitting bytes = bytes ∧ (sink.filled bytes).fitting more = more := by
  rw [fitting_append]
  constructor
  · intro whole
    -- What fits of the first bytes is no longer than they are, and cannot make way for the others.
    have first := (sink.fitting_isPrefix bytes).length_le
    have second := ((sink.filled bytes).fitting_isPrefix more).length_le
    have total := congrArg List.length whole
    rw [List.length_append, List.length_append] at total
    exact List.append_inj whole (by omega)
  · rintro ⟨first, second⟩
    rw [first, second]

/-- A sink that does not fail has room for everything that it is offered. -/
theorem fitting_of_taken {sink : BoundedSink} {bytes : Bytes}
    (taken : (sink.take bytes).1.failure? = none) : sink.fitting bytes = bytes := by
  -- A sink takes just the bytes that there is room for.
  rw [← taken_take]
  exact Receipt.taken_of_sound taken bytes

/-- A sink that fails has no room left. -/
theorem room_of_cut {sink : BoundedSink} {bytes : Bytes} {cause : Cause}
    (cut : (sink.take bytes).1.failure? = some cause) : (sink.filled bytes).room = some 0 := by
  cases limit : sink.room with
  | none => simp [take, limit, Receipt.failure?] at cut
  | some room =>
    -- Bytes that fit cannot have been cut.
    by_cases fits : bytes.length ≤ room
    · simp [take, limit, fits, Receipt.failure?] at cut
    · have used : room - bytes.length = 0 := by omega
      simp [filled, limit, used]

/-- Where no room is left, nothing fits. -/
theorem fitting_of_full {sink : BoundedSink} (full : sink.room = some 0) (bytes : Bytes) :
    sink.fitting bytes = [] := by
  simp [fitting, full]

/-- Where no room is left, further bytes take up none. -/
theorem filled_of_full {sink : BoundedSink} (full : sink.room = some 0) (bytes : Bytes) :
    sink.filled bytes = sink := by
  -- There is no room left to be used up.
  cases sink with
  | mk room flushFails shortage =>
    obtain rfl : room = some 0 := full
    simp [filled]

/-- A sink with room for everything that it is offered does not fail. -/
theorem taken_of_fitting {sink : BoundedSink} {bytes : Bytes}
    (fits : sink.fitting bytes = bytes) : (sink.take bytes).1.failure? = none := by
  -- Bytes that are all taken are no longer than the room.
  cases limit : sink.room with
  | none => simp [take, limit, Receipt.failure?]
  | some room =>
    have all : bytes.take room = bytes := by simpa [fitting, limit] using fits
    have short : bytes.length ≤ room := by
      rw [← all]
      exact List.length_take_le room bytes
    simp [take, limit, short, Receipt.failure?]

/-- Everything fits into a limitless sink. -/
theorem Limitless.fitting {sink : BoundedSink} (limitless : sink.Limitless) (bytes : Bytes) :
    sink.fitting bytes = bytes := by
  -- There is room for any bytes.
  simp [BoundedSink.fitting, limitless.1]

/-- A limitless sink stays limitless. -/
theorem Limitless.filled {sink : BoundedSink} (limitless : sink.Limitless) (bytes : Bytes) :
    (sink.filled bytes).Limitless := by
  -- Without a limit, nothing is counted down.
  simpa [BoundedSink.filled, Limitless] using limitless

/-- A limitless sink is steady. -/
theorem Limitless.steady {sink : BoundedSink} (limitless : sink.Limitless) : Sink.Steady sink := by
  -- Being limitless is what keeps the sink sound.
  refine ⟨Limitless, limitless, fun sink limitless => ⟨fun bytes => ?_, ?_, limitless⟩⟩
  · refine ⟨taken_of_fitting (limitless.fitting bytes), ?_⟩
    show (sink.take bytes).2.Limitless
    rw [take_state]
    exact limitless.filled bytes
  · simp [Sink.flush, limitless.2]

/-- A sink without limits is steady. -/
theorem steady_unlimited : Sink.Steady ({} : BoundedSink) := Limitless.steady ⟨rfl, rfl⟩

end BoundedSink

end Launcher
