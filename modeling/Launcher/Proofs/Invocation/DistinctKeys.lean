import Launcher.Proofs.Invocation.Reading

/-! How often a key occurs among the arguments of a command: once, but for the plan, which can be
given a second time as an option. -/

namespace Launcher.Invocation

open Options (lastGiven?)

/-- No key is passed on twice. -/
theorem passed_distinct (options : Options) : ((passed options).map Prod.fst).Nodup :=
  (options.erase "repeat").distinct

/-- The plan is passed on as an option only if a pair gives it, and then with its last value. -/
theorem lookup_plan_passed (pairs : List (String × String)) :
    (passed (Options.defaults.setAll pairs)).lookup "plan" = lastGiven? pairs "plan" := by
  -- A store starts without a plan of its own, and passing on leaves out another key.
  have start : Options.defaults.get? "plan" = none := by decide
  have other : "plan" ≠ "repeat" := by decide
  have kept := Options.get?_erase (Options.defaults.setAll pairs) "repeat" "plan"
  rw [if_neg other, Options.get?_setAll, start, Option.or_none] at kept
  exact kept

variable {settings : Settings} {tokens : List String} {options : Options}
  {positionals : List String} {invocation : Invocation}

/-- The arguments behind the script are read back as the plan and the options that are passed on. -/
theorem Asks.map_entryOf (asks : Asks settings tokens options positionals invocation) :
    ∃ plan, positionals[0]? = some plan ∧
      (invocation.command.parts.drop 5).map entryOf = ("plan", plan) :: passed options := by
  obtain ⟨plan, script, spare, rfl, parts, plain, _⟩ := asks.parts
  -- Five parts come before the arguments.
  refine ⟨plan, rfl, ?_⟩
  rw [parts, List.drop_left' (by simp), Plain.map_entryOf_argument plain]

/-- Behind the script, a command gives the plan that comes first among the positional arguments, and
then no key twice. Among the keys that follow, the plan is found only if it is also given as an
option, with the last value of that option; only then do the arguments have a key in common. -/
theorem command_repeats_only_plan (asks : Asks settings tokens options positionals invocation) :
    ∃ plan rest, positionals[0]? = some plan ∧
      (invocation.command.parts.drop 5).map entryOf = ("plan", plan) :: rest ∧
      (rest.map Prod.fst).Nodup ∧
      (rest.filter fun entry => entry.1 = "plan").map Prod.snd =
        (lastGiven? (Request.given tokens) "plan").toList ∧
      (((invocation.command.parts.drop 5).map Token.key).Nodup ↔
        "plan" ∉ (Request.given tokens).map Prod.fst) := by
  obtain ⟨plan, named, read⟩ := asks.map_entryOf
  obtain ⟨_, rfl, _⟩ := asks.given
  -- The store has each key once, and passing on only leaves some of them out.
  have distinct := passed_distinct (Options.defaults.setAll (Request.given tokens))
  have looked := lookup_plan_passed (Request.given tokens)
  refine ⟨plan, _, named, read, distinct, ?_, ?_⟩
  · rw [Options.values_of_distinct distinct, looked]
  · -- The keys that are passed on differ, so only the plan can be there twice.
    have keys : (invocation.command.parts.drop 5).map Token.key =
        "plan" :: (passed (Options.defaults.setAll (Request.given tokens))).map Prod.fst := by
      have firsts := congrArg (List.map Prod.fst) read
      rw [List.map_map] at firsts
      exact firsts
    rw [keys, List.nodup_cons, and_iff_left distinct, ← Options.lookup_eq_none_iff_not_mem, looked,
      Options.lastGiven?_eq_none_iff]

/-- Without a plan among the options, every key is given once, whatever overrides there are. -/
theorem command_keys_distinct_with_overrides :
    let tokens := ["GenMS", "timeout=60", "alloc", "seed=3", "timeout=90"]
    ∃ options positionals invocation, Asks {} tokens options positionals invocation ∧
      ((invocation.command.parts.drop 5).map Token.key).Nodup := by
  intro tokens
  have asks : Asks {} tokens (Options.defaults.setAll (Request.given tokens)) ["GenMS", "alloc"]
      ⟨harnessCommand {} (Options.defaults.setAll (Request.given tokens)) "GenMS" "alloc", 1⟩ :=
    ⟨by decide, (harness_eq_ok_iff ..).mpr ⟨_, _, [], 1, rfl, by decide, rfl⟩⟩
  obtain ⟨_, _, _, _, _, _, distinct⟩ := command_repeats_only_plan asks
  -- No token gives a plan as an option.
  exact ⟨_, _, _, asks, distinct.mpr (by decide)⟩

/-- Tokens with a plan of their own give the harness two of them. -/
theorem command_has_two_plans :
    ∃ options positionals invocation, Asks {} ["GenMS", "alloc", "plan=X"] options positionals
      invocation ∧ ¬ ((invocation.command.parts.drop 5).map Token.key).Nodup := by
  have asks : Asks {} ["GenMS", "alloc", "plan=X"]
      (Options.defaults.setAll (Request.given ["GenMS", "alloc", "plan=X"])) ["GenMS", "alloc"]
      ⟨harnessCommand {} (Options.defaults.setAll
        (Request.given ["GenMS", "alloc", "plan=X"])) "GenMS" "alloc", 1⟩ :=
    ⟨by decide, (harness_eq_ok_iff ..).mpr ⟨_, _, [], 1, rfl, by decide, rfl⟩⟩
  -- The keys are `plan`, those of every launch, and `plan` again.
  exact ⟨_, _, _, asks, by decide⟩

end Launcher.Invocation
