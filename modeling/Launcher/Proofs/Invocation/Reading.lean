import Launcher.Proofs.Invocation.Building

/-! What a command says can be read back from it: the plan, the script and every option that is
passed on. -/

namespace Launcher

/-- Different scripts have different paths. -/
theorem Settings.scriptPath_inj (settings : Settings) {script other : String} :
    settings.scriptPath script = settings.scriptPath other ↔ script = other := by
  refine ⟨fun same => ?_, fun same => by rw [same]⟩
  -- The directory before a name and the extension behind it are the same for every script.
  have spelled := congrArg String.toList same
  simp only [scriptPath] at spelled
  split at spelled
  · exact String.toList_inj.mp (by simpa using spelled)
  · exact String.toList_inj.mp (by simpa using spelled)

namespace Invocation

/-- An entry that its argument tells apart from every other: its key is there, and the only equals
sign is the one between its key and its value. -/
structure Plain (entry : String × String) : Prop where
  /-- The key is not empty. -/
  named : entry.1 ≠ ""
  /-- The key has no equals sign. -/
  key : '=' ∉ entry.1.toList
  /-- The value has no equals sign. -/
  value : '=' ∉ entry.2.toList

/-- The key and the value around the first equals sign of an argument. -/
def entryOf (argument : String) : String × String := (Token.key argument, Token.value argument)

namespace Plain

variable {entry : String × String} {entries : List (String × String)}

/-- The characters of an argument are its key and its value around an equals sign. -/
theorem toList_argument (entry : String × String) :
    (argument entry).toList = entry.1.toList ++ '=' :: entry.2.toList := by
  -- An argument is a key, a `=` and a value.
  simp [argument]

/-- There is one equals sign in the argument of a plain entry. -/
theorem count_argument (plain : Plain entry) : (argument entry).toList.count '=' = 1 := by
  -- The sign in between is the only one.
  rw [toList_argument, List.count_append, List.count_cons_self,
    List.count_eq_zero.mpr plain.key, List.count_eq_zero.mpr plain.value]

/-- The argument of a plain entry is read back as that entry. -/
theorem entryOf_argument (plain : Plain entry) : entryOf (argument entry) = entry := by
  -- Everything before the sign differs from it, so the key ends there and the value starts.
  have different : ∀ char ∈ entry.1.toList, decide (char ≠ '=') = true := by
    intro char member
    exact decide_eq_true fun same => plain.key (same ▸ member)
  have before : (argument entry).toList.takeWhile (· ≠ '=') = entry.1.toList := by
    rw [toList_argument, List.takeWhile_append_of_pos different]
    simp
  have behind : (argument entry).toList.dropWhile (· ≠ '=') = '=' :: entry.2.toList := by
    rw [toList_argument, List.dropWhile_append_of_pos different]
    simp
  rw [entryOf, Token.key, Token.value, before, behind]
  simp

/-- Arguments of plain entries are read back as those entries, in order. -/
theorem map_entryOf_argument (plain : ∀ entry ∈ entries, Plain entry) :
    (entries.map argument).map entryOf = entries := by
  -- Reading back undoes each argument on its own.
  rw [List.map_map]
  conv => rhs; rw [← List.map_id entries]
  exact List.map_congr_left fun entry member => (plain entry member).entryOf_argument

end Plain

/-- Every launch starts from plain options. -/
theorem plain_defaults : ∀ entry ∈ Options.defaults.entries, Plain entry := by
  -- There are five defaults, each of which can be checked.
  have fields : ∀ entry ∈ Options.defaults.entries,
      entry.1 ≠ "" ∧ '=' ∉ entry.1.toList ∧ '=' ∉ entry.2.toList := by decide
  intro entry member
  obtain ⟨named, key, value⟩ := fields entry member
  exact ⟨named, key, value⟩

/-- Well-formed tokens give plain options. -/
theorem plain_given {tokens : List String}
    (wellFormed : ∀ token ∈ tokens, ¬ Token.Malformed token) :
    ∀ entry ∈ Request.given tokens, Plain entry := by
  intro entry member
  obtain ⟨token, kept, rfl⟩ := List.mem_map.mp member
  obtain ⟨isToken, equals⟩ := List.mem_filter.mp kept
  -- An empty key or another sign in the value would make the token malformed.
  have sound := wellFormed token isToken
  rw [Token.malformed_iff (by simpa using equals), not_or] at sound
  exact ⟨sound.1, Token.equals_not_mem_key token, sound.2⟩

/-- The options that a command passes on: all but the number of repetitions. -/
def passed (options : Options) : List (String × String) :=
  options.entries.filter fun entry => entry.1 ≠ "repeat"

namespace Asks

variable {settings : Settings} {tokens : List String} {options : Options}
  {positionals : List String} {invocation : Invocation}

/-- The options that tokens ask for are plain. -/
theorem plain_options (asks : Asks settings tokens options positionals invocation) :
    ∀ entry ∈ options.entries, Plain entry := by
  obtain ⟨unsettled, rfl, _⟩ := asks.given
  have wellFormed := ((Request.unsettled_iff tokens).mp unsettled).2
  intro entry member
  -- An option is one that the launch starts from, or one that a token gives.
  rcases Options.mem_of_mem_setAll member with standing | told
  · exact plain_defaults entry standing
  · exact plain_given wellFormed entry told

/-- No positional argument has an equals sign. -/
theorem plain_positional (asks : Asks settings tokens options positionals invocation) :
    ∀ text ∈ positionals, '=' ∉ text.toList := by
  -- The tokens without a `=` are the ones that are positionals.
  obtain ⟨_, _, rfl⟩ := asks.given
  intro text member
  simpa using (List.mem_filter.mp member).2

/-- The parts of a command are those of every launch, and behind its script the arguments for the
plan and the options, all of them plain. -/
theorem parts (asks : Asks settings tokens options positionals invocation) :
    ∃ plan script spare, positionals = plan :: script :: spare ∧
      invocation.command.parts =
        [settings.java, "-ea", "-jar", settings.harnessJar, settings.scriptPath script] ++
          (("plan", plan) :: passed options).map argument ∧
      (∀ entry ∈ ("plan", plan) :: passed options, Plain entry) ∧
      timesOf options = .ok invocation.times := by
  obtain ⟨plan, script, spare, times, named, counted, rfl⟩ :=
    (harness_eq_ok_iff _ _ _ _).mp asks.built
  refine ⟨plan, script, spare, named, rfl, ?_, counted⟩
  -- The plan is a positional argument, and everything else is an option.
  have key : "plan" ≠ "" ∧ '=' ∉ "plan".toList := by decide
  have planPlain : Plain ("plan", plan) :=
    ⟨key.1, key.2, asks.plain_positional plan (by simp [named])⟩
  intro entry member
  rcases List.mem_cons.mp member with rfl | isPassed
  · exact planPlain
  · exact asks.plain_options entry (List.mem_filter.mp isPassed).1

end Asks

variable {settings : Settings} {tokens others : List String} {options different : Options}
  {positionals choices : List String} {invocation another : Invocation}

/-- Equal invocations are about the same plan, script, options and number of repetitions. -/
theorem eq_iff_same_request (asks : Asks settings tokens options positionals invocation)
    (asksToo : Asks settings others different choices another) :
    invocation = another ↔ positionals[0]? = choices[0]? ∧ positionals[1]? = choices[1]? ∧
      passed options = passed different ∧ timesOf options = timesOf different := by
  -- Both commands start with what every launch has, so they differ in the script or behind it.
  obtain ⟨plan, script, spare, rfl, parts, plain, counted⟩ := asks.parts
  obtain ⟨plan', script', spare', rfl, parts', plain', counted'⟩ := asksToo.parts
  constructor
  · rintro rfl
    -- Behind the path of the script, the command is read back argument by argument.
    obtain ⟨start, rest⟩ := List.append_inj (parts.symm.trans parts') (by simp)
    have entries := congrArg (List.map entryOf) rest
    rw [Plain.map_entryOf_argument plain, Plain.map_entryOf_argument plain'] at entries
    obtain ⟨samePlan, sameOptions⟩ := List.cons_eq_cons.mp entries
    have samePath : settings.scriptPath script = settings.scriptPath script' := by
      simpa using start
    exact ⟨by simpa using samePlan, by simpa using (settings.scriptPath_inj).mp samePath,
      sameOptions, counted.trans counted'.symm⟩
  · rintro ⟨samePlan, sameScript, sameOptions, sameTimes⟩
    -- The plan and the script come first, and everything else follows from the rest.
    obtain rfl : plan = plan' := by simpa using samePlan
    obtain rfl : script = script' := by simpa using sameScript
    have sameCommand : invocation.command = another.command := by
      rw [← CommandLine.parts_inj, parts, parts', sameOptions]
    have equalTimes : invocation.times = another.times := by
      rw [counted, counted'] at sameTimes
      exact Except.ok.inj sameTimes
    cases invocation
    cases another
    rw [Invocation.mk.injEq]
    exact ⟨sameCommand, equalTimes⟩

/-- Behind the script, each argument of a command has one equals sign and a key before it, and
splitting the arguments at that sign gives back the plan and every option that is passed on. So two
lists of tokens describe one invocation exactly if they agree in all that it depends on. -/
theorem command_tells_request (asks : Asks settings tokens options positionals invocation)
    (asksToo : Asks settings others different choices another) :
    (∃ plan script spare arguments, positionals = plan :: script :: spare ∧
      invocation.command.parts =
        [settings.java, "-ea", "-jar", settings.harnessJar, settings.scriptPath script] ++
          arguments ∧
      (∀ argument ∈ arguments, argument.toList.count '=' = 1 ∧ Token.key argument ≠ "") ∧
      arguments.map entryOf = ("plan", plan) :: passed options) ∧
    (invocation = another ↔ positionals[0]? = choices[0]? ∧ positionals[1]? = choices[1]? ∧
      passed options = passed different ∧ timesOf options = timesOf different) := by
  refine ⟨?_, eq_iff_same_request asks asksToo⟩
  obtain ⟨plan, script, spare, named, parts, plain, _⟩ := asks.parts
  refine ⟨plan, script, spare, _, named, parts, ?_, Plain.map_entryOf_argument plain⟩
  intro text member
  obtain ⟨entry, isEntry, rfl⟩ := List.mem_map.mp member
  -- The key that is read back is the one of the entry, which has one.
  have key : Token.key (argument entry) = entry.1 :=
    congrArg Prod.fst (plain entry isEntry).entryOf_argument
  exact ⟨(plain entry isEntry).count_argument, key ▸ (plain entry isEntry).named⟩

/-- Two ways to ask for one invocation: an override, a padded number, and a spare argument. -/
theorem command_tells_reworded_request :
    let tokens := ["GenMS", "alloc", "seed=3"]
    let others := ["seed=4", "GenMS", "repeat=01", "alloc", "seed=3", "spare"]
    ∃ options different positionals choices invocation another,
      Asks {} tokens options positionals invocation ∧
      Asks {} others different choices another ∧ invocation = another := by
  intro tokens others
  have asks : Asks {} tokens (Options.defaults.setAll (Request.given tokens)) ["GenMS", "alloc"]
      ⟨harnessCommand {} (Options.defaults.setAll (Request.given tokens)) "GenMS" "alloc", 1⟩ :=
    ⟨by decide, (harness_eq_ok_iff ..).mpr ⟨_, _, [], 1, rfl, by decide, rfl⟩⟩
  have asksToo : Asks {} others (Options.defaults.setAll (Request.given others))
      ["GenMS", "alloc", "spare"]
      ⟨harnessCommand {} (Options.defaults.setAll (Request.given others)) "GenMS" "alloc", 1⟩ :=
    ⟨by decide, (harness_eq_ok_iff ..).mpr ⟨_, _, ["spare"], 1, rfl, by decide, rfl⟩⟩
  -- Both have the plan, the script, the count and the last seed in common.
  refine ⟨_, _, _, _, _, _, asks, asksToo, ?_⟩
  exact (command_tells_request asks asksToo).2.mpr ⟨rfl, rfl, by decide, by decide⟩

end Invocation

end Launcher
