import Launcher.Proofs.Invocation.Building

/-! The command that tokens describe: its arguments in order, and how often it is to be run. -/

namespace Launcher.Invocation

open Options (lastGiven?)

/-- The options that every command passes on first, with the values they have unless told. -/
def passedOn : List (String × String) :=
  [("verbose", "2"), ("initHeap", "20M"), ("timeout", "30"), ("variableSizeHeap", "false")]

/-- The keys of pairs beyond those of every launch, in the order in which they first appear. -/
def furtherKeys (pairs : List (String × String)) : List String :=
  ((pairs.map Prod.fst).filter fun key =>
    key ∉ ["verbose", "initHeap", "timeout", "variableSizeHeap", "repeat"]).eraseDups

/-- A further key is named by a pair and is none of the keys of every launch. -/
theorem mem_furtherKeys {pairs : List (String × String)} {key : String} :
    key ∈ furtherKeys pairs ↔ key ∈ pairs.map Prod.fst ∧
      key ∉ ["verbose", "initHeap", "timeout", "variableSizeHeap", "repeat"] := by
  -- Leaving out repetitions leaves the members.
  rw [furtherKeys, List.mem_eraseDups, List.mem_filter, decide_eq_true_eq]

/-- The number of repetitions is among the keys of every launch, hence never a further one. -/
theorem ne_repeat_of_mem {pairs : List (String × String)} {key : String}
    (member : key ∈ furtherKeys pairs) : key ≠ "repeat" := by
  -- The number of repetitions is among the keys of every launch.
  rintro rfl
  exact (mem_furtherKeys.mp member).2 (by decide)

/-- The options of a launch are passed on in order: those of every launch, then the further ones. -/
theorem keys_passedOn (pairs : List (String × String)) :
    ((Options.defaults.setAll pairs).erase "repeat").keys =
      passedOn.map Prod.fst ++ furtherKeys pairs := by
  have start : Options.defaults.keys =
      ["verbose", "initHeap", "timeout", "variableSizeHeap", "repeat"] := by decide
  -- Keys that pairs add are those of pairs that no launch starts with.
  have further : ((pairs.map Prod.fst).removeAll Options.defaults.keys).eraseDups =
      furtherKeys pairs := by
    rw [furtherKeys, start, List.removeAll]
    congr 1
    refine List.filter_congr fun key _ => ?_
    simp
  -- None of the further keys is erased.
  have kept : (furtherKeys pairs).filter (· ≠ "repeat") = furtherKeys pairs :=
    List.filter_eq_self.mpr fun key member => decide_eq_true (ne_repeat_of_mem member)
  rw [Options.keys_erase, Options.keys_setAll, List.eraseDups_append, List.filter_append, further,
    kept, start]
  congr 1

/-- An option that is passed on has the value given last, or else the one it starts with. -/
theorem get?_passedOn (pairs : List (String × String)) {key : String} (other : key ≠ "repeat") :
    ((Options.defaults.setAll pairs).erase "repeat").get? key =
      (lastGiven? pairs key).or (Options.defaults.get? key) := by
  -- Erasing one key leaves the others as they were set.
  rw [Options.get?_erase, if_neg other, Options.get?_setAll]

/-- The further options that pairs give, each with its last value. -/
def further (pairs : List (String × String)) : List (String × String) :=
  (furtherKeys pairs).map fun key => (key, (lastGiven? pairs key).getD "")

/-- Every further option has the value that it is given last. -/
theorem lastGiven?_further {pairs : List (String × String)} {option : String × String}
    (member : option ∈ further pairs) : lastGiven? pairs option.1 = some option.2 := by
  -- A further key is named by some pair, so that the default of the definition is not used.
  obtain ⟨key, isKey, rfl⟩ := List.mem_map.mp member
  have named := (mem_furtherKeys.mp isKey).1
  obtain ⟨value, found⟩ := Options.exists_lastGiven? named
  simp [found]

/-- What is passed on: the options of every launch with their last values, then the further ones. -/
theorem entries_passedOn (pairs : List (String × String)) :
    ((Options.defaults.setAll pairs).erase "repeat").entries =
      (passedOn.map fun option => (option.1, (lastGiven? pairs option.1).getD option.2)) ++
        further pairs := by
  rw [Options.entries_eq_map, keys_passedOn, List.map_append, List.map_map]
  congr 1
  · -- The options of every launch fall back on the values that they start with.
    refine List.map_congr_left fun option member => ?_
    have start : option.1 ≠ "repeat" ∧ Options.defaults.get? option.1 = some option.2 := by
      revert option
      decide
    simp [get?_passedOn pairs start.1, start.2]
  · -- A further key is named by a pair, so it has a last value.
    refine List.map_congr_left fun key isKey => ?_
    obtain ⟨value, found⟩ := Options.exists_lastGiven? (mem_furtherKeys.mp isKey).1
    simp [get?_passedOn pairs (ne_repeat_of_mem isKey), found]

/-- A text that starts with a key and an equals sign has that key before its first equals sign. -/
theorem eq_of_equals_prefix {wanted key rest more : List Char} (plain : '=' ∉ wanted)
    (sound : '=' ∉ key) (starts : wanted ++ '=' :: rest <+: key ++ '=' :: more) : wanted = key := by
  induction wanted generalizing key with
  | nil =>
    cases key with
    | nil => rfl
    | cons char later =>
      -- A longer key would start with the equals sign.
      rw [List.nil_append, List.cons_append, List.cons_prefix_cons] at starts
      exact absurd (by simp [← starts.1]) sound
  | cons char later ih =>
    cases key with
    | nil =>
      rw [List.nil_append, List.cons_append, List.cons_prefix_cons] at starts
      -- A shorter key would have its equals sign inside the wanted one.
      exact absurd (by simp [starts.1]) plain
    | cons same behind =>
      rw [List.cons_append, List.cons_append, List.cons_prefix_cons] at starts
      simp only [List.mem_cons, not_or] at plain sound
      rw [starts.1, ih plain.2 sound.2 starts.2]

/-- The number of repetitions that options ask for is the one denoted by the value given last. -/
theorem timesOf_setAll (pairs : List (String × String)) :
    (lastGiven? pairs "repeat" = none → timesOf (Options.defaults.setAll pairs) = .ok 1) ∧
    ∀ text times, lastGiven? pairs "repeat" = some text → RepeatCount.Denotes text times →
      timesOf (Options.defaults.setAll pairs) = .ok times := by
  -- Without a value of its own, the number is the one that every launch starts with.
  constructor
  · intro silent
    refine (timesOf_eq_ok_iff pairs 1).mpr ?_
    rw [timesText, silent]
    exact RepeatCount.denotes_one
  · intro text times told denoted
    refine (timesOf_eq_ok_iff pairs times).mpr ?_
    rwa [timesText, told]

/-- No argument for an option starts with a key that is not its own. -/
theorem not_prefix_argument {wanted : String} {option : String × String}
    (plain : '=' ∉ wanted.toList) (sound : '=' ∉ option.1.toList) (other : option.1 ≠ wanted) :
    ¬ (wanted ++ "=").toList <+: (argument option).toList := by
  -- Both spellings have their first `=` behind the key, so that the keys would be the same.
  intro starts
  have spelled : wanted.toList ++ '=' :: [] <+: option.1.toList ++ '=' :: option.2.toList := by
    simpa [argument] using starts
  have same : wanted.toList = option.1.toList := eq_of_equals_prefix plain sound spelled
  exact other (String.toList_inj.mp same).symm

/-- The parts of a command, for the options that pairs leave of those of every launch. -/
theorem parts_harnessCommand (settings : Settings) (pairs : List (String × String))
    (plan script : String) :
    (harnessCommand settings (Options.defaults.setAll pairs) plan script).parts =
      [settings.java, "-ea", "-jar", settings.harnessJar, settings.scriptPath script,
        "plan=" ++ plan] ++
      (passedOn.map fun option => option.1 ++ "=" ++ (lastGiven? pairs option.1).getD option.2) ++
      ((further pairs).map fun option => option.1 ++ "=" ++ option.2) := by
  have named : argument ("plan", plan) = "plan=" ++ plan := rfl
  have shown : argument = fun option => option.1 ++ "=" ++ option.2 := rfl
  -- The store without the repetitions is told by its entries, which `entries_passedOn` gives.
  rw [CommandLine.parts, harnessCommand, repeatKey, entries_passedOn, named, shown]
  simp [Function.comp_def]

/-- The keys that are passed on for tokens hold no equals sign, and none of them is `repeat`. -/
theorem key_passedOn {tokens : List String} {option : String × String}
    (member : option ∈ ((Options.defaults.setAll (Request.given tokens)).erase "repeat").entries) :
    '=' ∉ option.1.toList ∧ option.1 ≠ "repeat" := by
  have isKey : option.1 ∈ passedOn.map Prod.fst ++ furtherKeys (Request.given tokens) := by
    rw [← keys_passedOn]
    exact List.mem_map_of_mem member
  rcases List.mem_append.mp isKey with standing | added
  · have plain : ∀ key ∈ passedOn.map Prod.fst, '=' ∉ key.toList ∧ key ≠ "repeat" := by decide
    exact plain option.1 standing
  · -- A key that a token gives is what stands before the token's first equals sign.
    obtain ⟨pair, given, same⟩ := List.mem_map.mp (mem_furtherKeys.mp added).1
    obtain ⟨token, -, rfl⟩ := List.mem_map.mp given
    exact ⟨same ▸ Token.equals_not_mem_key token, ne_repeat_of_mem added⟩

/-- Behind the script, no part of the command gives a value to the key `repeat`. -/
theorem repeat_not_prefix (settings : Settings) (tokens : List String) (plan script : String) :
    ∀ part ∈ (harnessCommand settings (Options.defaults.setAll (Request.given tokens)) plan
      script).parts.drop 5, ¬ "repeat=".toList <+: part.toList := by
  intro part member
  -- Each of these parts is an option as one argument, the plan being the first.
  have behind : (harnessCommand settings (Options.defaults.setAll (Request.given tokens)) plan
      script).parts.drop 5 = (("plan", plan) ::
        ((Options.defaults.setAll (Request.given tokens)).erase "repeat").entries).map argument :=
    rfl
  rw [behind] at member
  obtain ⟨option, isOption, rfl⟩ := List.mem_map.mp member
  -- The plan is not the number of repetitions, and that one was erased.
  have key : '=' ∉ option.1.toList ∧ option.1 ≠ "repeat" := by
    rcases List.mem_cons.mp isOption with isPlan | isEntry
    · have plain : '=' ∉ "plan".toList ∧ "plan" ≠ "repeat" := by decide
      exact isPlan ▸ plain
    · exact key_passedOn isEntry
  exact not_prefix_argument (by decide) key.1 key.2

/-- Well-formed tokens with a plan, a script and a valid number of repetitions are launched: the
command names the plan and passes on every option but the number of repetitions, those of every
launch first and the others as they first appear, each once and with its last value. -/
theorem harness_of_tokens (settings : Settings) {tokens : List String} {plan script : String}
    {spare : List String} (noListing : "--ls" ∉ tokens) (noHelp : "--help" ∉ tokens)
    (wellFormed : ∀ token ∈ tokens, ¬ Token.Malformed token)
    (named : Request.positionals tokens = plan :: script :: spare)
    (countable : ∀ text, lastGiven? (Request.given tokens) "repeat" = some text →
      ∃ times, RepeatCount.Denotes text times) :
    ∃ (options : Options) (invocation : Invocation) (added : List (String × String)),
      Request.ofTokens .defaults tokens = .ok (.launch options (plan :: script :: spare)) ∧
      harness settings options (plan :: script :: spare) = .ok invocation ∧
      invocation.command.parts =
        [settings.java, "-ea", "-jar", settings.harnessJar, settings.scriptPath script,
          "plan=" ++ plan] ++
        (passedOn.map fun option =>
          option.1 ++ "=" ++ (lastGiven? (Request.given tokens) option.1).getD option.2) ++
        (added.map fun option => option.1 ++ "=" ++ option.2) ∧
      added.map Prod.fst = furtherKeys (Request.given tokens) ∧
      (∀ option ∈ added, lastGiven? (Request.given tokens) option.1 = some option.2) ∧
      (lastGiven? (Request.given tokens) "repeat" = none → invocation.times = 1) ∧
      (∀ text, lastGiven? (Request.given tokens) "repeat" = some text →
        RepeatCount.Denotes text invocation.times) ∧
      ∀ part ∈ invocation.command.parts.drop 5, ¬ "repeat=".toList <+: part.toList := by
  -- Nothing settles the request early, so that it is to launch.
  have request : Request.ofTokens .defaults tokens =
      .ok (.launch (Options.defaults.setAll (Request.given tokens)) (plan :: script :: spare)) := by
    have quiet : tokens.contains Token.listingText = false := by
      simpa [Token.listingText] using noListing
    rw [Request.ofTokens, quiet, if_neg Bool.false_ne_true,
      Request.scan_eq_launch _ _ noHelp wellFormed, named, List.nil_append]
  -- The number of repetitions comes from the last value if there is one.
  obtain ⟨times, counted, silent, told⟩ : ∃ times,
      timesOf (Options.defaults.setAll (Request.given tokens)) = .ok times ∧
      (lastGiven? (Request.given tokens) "repeat" = none → times = 1) ∧
      ∀ text, lastGiven? (Request.given tokens) "repeat" = some text →
        RepeatCount.Denotes text times := by
    obtain ⟨standing, denoting⟩ := timesOf_setAll (Request.given tokens)
    cases found : lastGiven? (Request.given tokens) "repeat" with
    | none => exact ⟨1, standing found, fun _ => rfl, by simp⟩
    | some text =>
      obtain ⟨times, denoted⟩ := countable text found
      refine ⟨times, denoting text times found denoted, by simp, ?_⟩
      intro other same
      exact Option.some_inj.mp same ▸ denoted
  refine ⟨_, ⟨_, times⟩, further (Request.given tokens), request, ?_,
    parts_harnessCommand settings _ plan script, ?_, fun option => lastGiven?_further, silent, told,
    repeat_not_prefix settings tokens plan script⟩
  · rw [harness, counted]
    rfl
  · simp [further, Function.comp_def]

/-- Overrides among positionals: the last values count, and the first places. -/
theorem harness_of_overriding_tokens :
    let tokens := ["GenMS", "scheduler=A", "timeout=60", "alloc", "repeat=7", "scheduler=B",
      "repeat= +02"]
    ∃ options invocation,
      Request.ofTokens .defaults tokens = .ok (.launch options ["GenMS", "alloc"]) ∧
      harness {} options ["GenMS", "alloc"] = .ok invocation ∧
      invocation.command.parts =
        ["java", "-ea", "-jar", "dist/mmtk-harness.jar", "MMTk/harness/test-scripts/alloc.script",
          "plan=GenMS", "verbose=2", "initHeap=20M", "timeout=60", "variableSizeHeap=false",
          "scheduler=B"] ∧
      RepeatCount.Denotes " +02" invocation.times := by
  intro tokens
  -- The last of the two counts is the one that is read.
  have valid : RepeatCount.Denotes " +02" 2 :=
    (RepeatCount.read?_eq_some_iff " +02" 2).mp (by decide)
  have named : Request.positionals tokens = ["GenMS", "alloc"] := by decide
  have last : lastGiven? (Request.given tokens) "repeat" = some " +02" := by decide
  obtain ⟨options, invocation, added, request, built, parts, keys, values, -, told, -⟩ :=
    harness_of_tokens {} (by decide) (by decide) (by decide) named
      (fun text found => ⟨2, Option.some_inj.mp (last.symm.trans found) ▸ valid⟩)
  -- The one further key fixes the one further option.
  have only : furtherKeys (Request.given tokens) = ["scheduler"] := by decide
  have scheduled : lastGiven? (Request.given tokens) "scheduler" = some "B" := by decide
  obtain ⟨option, rfl, key⟩ := List.map_eq_singleton_iff.mp (keys.trans only)
  have value := values option (List.mem_singleton_self option)
  rw [key, scheduled, Option.some_inj] at value
  refine ⟨options, invocation, request, built, ?_, told _ last⟩
  rw [parts, List.map_singleton, key, ← value]
  decide +kernel

end Launcher.Invocation
