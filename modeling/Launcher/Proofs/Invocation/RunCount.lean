import Launcher.Proofs.Invocation.Building

/-! The text that says how often to run: which texts are taken, and the number that each of them
asks for, whatever else is given. -/

namespace Launcher.Invocation

variable (settings : Settings) (options : Options) (plan script : String) (spare : List String)

/-- With a plan and a script, an invocation comes about exactly if the number of runs does. -/
theorem harness_times_iff (times : Nat) :
    (∃ command, harness settings options (plan :: script :: spare) = .ok ⟨command, times⟩) ↔
      timesOf options = .ok times := by
  -- With a plan and a script, the count is all that building an invocation can fail at.
  simp only [harness_eq_ok_iff]
  constructor
  · rintro ⟨command, _, _, _, counted, -, read, built⟩
    obtain ⟨-, rfl⟩ := Invocation.mk.inj built
    exact read
  · intro read
    exact ⟨_, plan, script, spare, times, rfl, read, rfl⟩

/-- With a plan and a script, the number of runs is all that can be wrong. -/
theorem harness_refused_iff (error : LaunchError) :
    harness settings options (plan :: script :: spare) = .error error ↔
      timesOf options = .error error := by
  -- The other errors are about a plan or a script that is missing.
  simp [harness_eq_error_iff]

/-- The text for the number of runs is taken exactly if, but for white space around it, it is made
of digits behind an optional plus sign and their number is from one up to the last one of 32 bits;
the number of runs is then that number. Any other text is refused as it was given. So every number
in range can be given in decimal, behind any number of zeros, and in no other way. -/
theorem run_count_told_by_text (text : String) :
    let built := harness settings (options.set "repeat" text) (plan :: script :: spare)
    (∀ times, (∃ command, built = .ok ⟨command, times⟩) ↔ RepeatCount.Denotes text times) ∧
    (∀ error, built = .error error ↔
      error = .invalidRepeat text ∧ ∀ times, ¬ RepeatCount.Denotes text times) ∧
    (∀ times, (∃ command, built = .ok ⟨command, times⟩) ↔
      1 ≤ times ∧ times ≤ 4294967295 ∧
        ∃ (before sign after : List Char) (zeros : Nat),
          text.toList =
            before ++ (sign ++ (List.replicate zeros '0' ++ Nat.toDigits 10 times)) ++ after ∧
          (∀ char ∈ before, isBlank char) ∧ (∀ char ∈ after, isBlank char) ∧
          (sign = [] ∨ sign = ['+'])) := by
  intro built
  -- Whatever the store held for the number of runs before, the text has taken its place.
  have given : (options.set "repeat" text).get? repeatKey = some text := by
    rw [Options.get?_set]
    exact if_pos rfl
  have taken : ∀ times, (∃ command, built = .ok ⟨command, times⟩) ↔
      RepeatCount.Denotes text times := fun times =>
    (harness_times_iff _ _ _ _ _ times).trans (timesOf_eq_ok_of_get? given times)
  refine ⟨taken, fun error => ?_, fun times => ?_⟩
  · exact (harness_refused_iff _ _ _ _ _ error).trans (timesOf_eq_error_of_get? given error)
  · exact (taken times).trans (RepeatCount.denotes_iff_shows text times)

/-- The last number in range is taken, and one more is refused. -/
example :
    ((harness {} (.set .defaults "repeat" "\t+0004294967295 ") ["GenMS", "alloc"]).toOption.map
      Invocation.times = some 4294967295) ∧
    harness {} (.set .defaults "repeat" "\t+0004294967296 ") ["GenMS", "alloc"] =
      .error (.invalidRepeat "\t+0004294967296 ") := by
  decide +kernel

end Launcher.Invocation
