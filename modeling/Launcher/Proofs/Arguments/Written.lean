import Launcher.Arguments.Reader
import Launcher.Proofs.Text.Utf8
import Mathlib.Data.List.TakeWhile

/-! Options in front of other arguments. A program that passes arguments on reads the options that
it knows one after the other, and from the first other argument on takes everything as it stands. -/

namespace Launcher.Arguments

/-- A program that passes on what stands behind its options, and can tell these apart by name. -/
structure Grammar.PassesOn (grammar : Grammar) : Prop where
  /-- Everything from the first argument on that is no option is taken. -/
  tail : grammar.tail = .everything
  /-- Options have a name, which is free of equals signs. -/
  named : ∀ rule ∈ grammar.rules, utf8 rule.long ≠ [] ∧ equals ∉ utf8 rule.long
  /-- No two options share a name. -/
  distinct : (grammar.rules.map Rule.long).Nodup
  /-- A variable stands in only for an option with a value. -/
  standIns : ∀ rule ∈ grammar.rules, rule.environment.isSome → rule.takesValue

/-- An option as it stands among arguments. -/
inductive Written where
  /-- Its name alone. -/
  | bare (rule : Rule)
  /-- Its name with a value joined to it. -/
  | joined (rule : Rule) (value : Bytes)
  /-- Its name with a value behind it. -/
  | apart (rule : Rule) (value : Bytes)
  deriving DecidableEq, Repr

/-- The name of an option as it stands among arguments. -/
def dashed (name : String) : Bytes := utf8 ("--" ++ name)

namespace Written

/-- The option that is written. -/
def rule : Written → Rule
  | .bare rule | .joined rule _ | .apart rule _ => rule

/-- The arguments that an option is written as. -/
def arguments : Written → List Bytes
  | .bare rule => [dashed rule.long]
  | .joined rule value => [dashed rule.long ++ equals :: value]
  | .apart rule value => [dashed rule.long, value]

/-- An option is written as the program knows it: alone if it is only given or not, else with a
value, which is not empty and does not start with a hyphen. -/
def Fits (grammar : Grammar) (option : Written) : Prop :=
  option.rule ∈ grammar.rules ∧
    match option with
    | .bare rule => rule.role = .flag
    | .joined rule value | .apart rule value =>
      rule.takesValue ∧ value ≠ [] ∧ value.head? ≠ some hyphen

instance (grammar : Grammar) : (option : Written) → Decidable (option.Fits grammar)
  | .bare rule => inferInstanceAs (Decidable (rule ∈ grammar.rules ∧ rule.role = .flag))
  | .joined rule value | .apart rule value => inferInstanceAs (Decidable
      (rule ∈ grammar.rules ∧ rule.takesValue ∧ value ≠ [] ∧ value.head? ≠ some hyphen))

/-- Adds what an option gives. -/
def add (given : Given) : Written → Except Stop Given
  | .bare rule => given.addFlag rule
  | .joined rule value | .apart rule value => given.addOption rule value

/-- How far reading has come behind an option, once everything before it is settled. -/
def place (settled : Progress) : Written → Except Stop Progress
  | .bare rule => (settled.given.addFlag rule).map fun given => { settled with given }
  | .joined rule value =>
    (settled.given.addOption rule value).map fun given => { settled with given }
  | .apart rule value => .ok { settled with pending := .valued rule value }

end Written

/-- Arguments that a program takes as they stand: there are none, or the first one neither looks
like an option that the program knows nor ends the options. -/
def Grammar.Begins (grammar : Grammar) (tokens : List Bytes) : Prop :=
  ∀ first ∈ tokens.head?, first ≠ separator ∧ grammar.classify first = .other

/-- Two hyphens stand in front of a name. -/
theorem dashed_eq (name : String) : dashed name = hyphen :: hyphen :: utf8 name := by
  -- Two hyphens are two bytes.
  rw [dashed, utf8_append]
  rfl

/-- What does not start with a hyphen is no option. -/
theorem classify_of_plain (grammar : Grammar) {argument : Bytes}
    (plain : argument.head? ≠ some hyphen) : grammar.classify argument = .other := by
  -- Names and letters are both looked for behind a hyphen.
  obtain ⟨unnamed, unlettered⟩ : named? argument = none ∧ letters? argument = none := by
    match argument, plain with
    | [], _ | [_], _ => exact ⟨rfl, rfl⟩
    | first :: second :: rest, plain =>
      have other : first ≠ hyphen := by simpa using plain
      simp [named?, letters?, other]
  simp only [Grammar.classify, unnamed, unlettered]

/-- A name behind two hyphens ends with the argument or at its first equals sign, behind which
stands the value, whatever that contains. -/
theorem named?_of_free {name : Bytes} (filled : name ≠ []) (free : equals ∉ name) :
    named? (hyphen :: hyphen :: name) = some (name, none) ∧
      ∀ value,
        named? (hyphen :: hyphen :: (name ++ equals :: value)) = some (name, some value) := by
  -- Nothing in the name stops the search for an equals sign, so the first one stands behind it.
  have letters : ∀ byte ∈ name, decide (byte ≠ equals) = true := fun byte member =>
    decide_eq_true fun same => free (same ▸ member)
  refine ⟨?_, fun value => ?_⟩
  · simp only [named?]
    rw [if_pos (by simp [filled]), List.takeWhile_eq_self_iff.mpr letters,
      List.dropWhile_eq_nil_iff.mpr letters]
  · simp only [named?]
    rw [if_pos (by simp), List.takeWhile_append_of_pos letters,
      List.dropWhile_append_of_pos letters, List.takeWhile_cons_of_neg (by simp),
      List.dropWhile_cons_of_neg (by simp), List.append_nil]

section Names

variable {grammar : Grammar} (sound : grammar.PassesOn) {rule : Rule} (known : rule ∈ grammar.rules)
include sound known

/-- A known option is found by its name. -/
theorem find?_long : grammar.rules.find? (fun other => other.long = rule.long) = some rule := by
  have distinct := sound.distinct
  generalize grammar.rules = rules at known distinct
  induction rules with
  | nil => cases known
  | cons head rest ih =>
    rw [List.map_cons, List.nodup_cons] at distinct
    rcases List.mem_cons.mp known with rfl | later
    · exact List.find?_cons_of_pos (by simp)
    · -- The first option has another name, so it is passed over.
      have other : head.long ≠ rule.long := fun same =>
        distinct.1 (same ▸ List.mem_map_of_mem later)
      rw [List.find?_cons_of_neg (by simpa using other)]
      exact ih later distinct.2

/-- What begins with the name of a known option is that option. -/
theorem classify_of_named {argument : Bytes} {value? : Option Bytes}
    (begins : named? argument = some (utf8 rule.long, value?)) :
    grammar.classify argument = .named rule value? := by
  -- The name is text, and the option that has it is the first one found.
  simp only [Grammar.classify, begins, Utf8.text?_utf8, find?_long sound known]

/-- The name of a known option alone is that option. -/
theorem classify_dashed : grammar.classify (dashed rule.long) = .named rule none := by
  -- The name holds no `=`, so that there is no value behind it.
  obtain ⟨filled, free⟩ := sound.named rule known
  refine classify_of_named sound known ?_
  rw [dashed_eq]
  exact (named?_of_free filled free).1

/-- The name of a known option, an equals sign and a value are that option with the value. -/
theorem classify_joined (value : Bytes) :
    grammar.classify (dashed rule.long ++ equals :: value) = .named rule (some value) := by
  -- The name holds no `=`, so that it ends at the one that is written behind it.
  obtain ⟨filled, free⟩ := sound.named rule known
  refine classify_of_named sound known ?_
  rw [dashed_eq]
  exact (named?_of_free filled free).2 value

/-- What begins with the name of a known option does not end the options. -/
theorem dashed_append_ne_separator (rest : Bytes) : dashed rule.long ++ rest ≠ separator := by
  -- A name holds at least one character, and there is none behind the separator's hyphens.
  have filled := (sound.named rule known).1
  rw [dashed_eq, separator]
  simp [filled]

end Names

/-- Where everything is settled, nothing is begun. -/
theorem pending_of_settle {progress settled : Progress} (ok : progress.settle = .ok settled) :
    settled.pending = .nothing := by
  -- What was begun is settled as soon as it has been added.
  have added : ∀ result : Except Stop Given,
      (result.map fun given => { progress with given, pending := .nothing }) = .ok settled →
        settled.pending = .nothing := by
    intro result ended
    cases result with
    | error stop => cases ended
    | ok given =>
      obtain rfl := Except.ok.inj ended
      rfl
  -- What waits for its value cannot be settled; anything else is as above.
  unfold Progress.settle at ok
  split at ok
  · obtain rfl := Except.ok.inj ok
    assumption
  · cases ok
  · exact added _ ok
  · exact added _ ok

/-- Once an option is settled, what it gives has been added to what was given before. -/
theorem settle_place (option : Written) {settled : Progress}
    (nothing : settled.pending = .nothing) :
    (option.place settled >>= Progress.settle) =
      (option.add settled.given).map fun given => { settled with given } := by
  -- Alone or with its value joined, an option is added at once, and nothing is left to settle.
  cases option with
  | bare rule =>
    simp only [Written.place, Written.add]
    cases added : settled.given.addFlag rule with
    | error stop => rfl
    | ok given => simp [Except.map, bind, Except.bind, Progress.settle, nothing]
  | joined rule value =>
    simp only [Written.place, Written.add]
    cases added : settled.given.addOption rule value with
    | error stop => rfl
    | ok given => simp [Except.map, bind, Except.bind, Progress.settle, nothing]
  | apart rule value =>
    -- The value behind the name is added only when it is settled.
    simp only [Written.place, Written.add, bind, Except.bind, Progress.settle, nothing]

/-- Behind an option that is written, none waits for a value. -/
theorem pending_place {option : Written} {settled further : Progress}
    (nothing : settled.pending = .nothing) (ok : option.place settled = .ok further) (rule : Rule) :
    further.pending ≠ .awaiting rule := by
  -- Only an option with its value apart leaves something pending, and it has its value by then.
  have kept : ∀ result : Except Stop Given,
      (result.map fun given => { settled with given }) = .ok further →
        further.pending ≠ .awaiting rule := by
    intro result ended
    cases result with
    | error stop => cases ended
    | ok given =>
      obtain rfl := Except.ok.inj ended
      simp [nothing]
  -- A bare or joined option is added to what is settled.
  cases option with
  | bare other => exact kept _ ok
  | joined other value => exact kept _ ok
  | apart other value =>
    obtain rfl := Except.ok.inj ok
    simp

/-- An option that is only given or not is added once everything before it is settled. -/
theorem takeOption_flag (progress : Progress) {rule : Rule} (flag : rule.role = .flag) :
    progress.takeOption rule none = progress.settle >>= (Written.bare rule).place := by
  have alone : rule.takesValue = false := by simp [Rule.takesValue, flag]
  simp only [Progress.takeOption, Progress.takeFlag, alone, flag]
  -- Both sides settle what is pending first, and then add the flag.
  cases progress.settle with
  | error stop => rfl
  | ok settled => cases settled.given.addFlag rule <;> rfl

/-- So is an option with its value. -/
theorem takeOption_joined (progress : Progress) {rule : Rule} (takes : rule.takesValue)
    (value : Bytes) :
    progress.takeOption rule (some value) =
      progress.settle >>= (Written.joined rule value).place := by
  simp only [Progress.takeOption, takes]
  -- Both sides settle what is pending first, and then add the value.
  cases progress.settle with
  | error stop => rfl
  | ok settled => cases settled.given.addOption rule value <;> rfl

/-- An option without its value waits for it. -/
theorem takeOption_awaiting (progress : Progress) {rule : Rule} (takes : rule.takesValue) :
    progress.takeOption rule none =
      progress.settle.map fun settled => { settled with pending := .awaiting rule } := by
  -- Without a value of its own, the option is remembered once what is pending is settled.
  simp only [Progress.takeOption, takes]
  cases progress.settle <;> rfl

/-- The name of an option is taken, and then the arguments behind it. -/
theorem read_named {grammar : Grammar} {argument : Bytes} {rule : Rule} {value? : Option Bytes}
    (goesOn : argument ≠ separator) (named : grammar.classify argument = .named rule value?)
    (progress : Progress) (rest : List Bytes) :
    read grammar progress (argument :: rest) =
      progress.takeOption rule value? >>= fun further => read grammar further rest := by
  -- The argument is no separator, so that options are still looked for.
  rw [read, if_neg goesOn, named]

/-- What does not look like an option is the value of an option that waits for one. -/
theorem read_awaited (grammar : Grammar) {value : Bytes} (plain : value.head? ≠ some hyphen)
    (settled : Progress) (rule : Rule) (rest : List Bytes) :
    read grammar { settled with pending := .awaiting rule } (value :: rest) =
      read grammar { settled with pending := .valued rule value } rest := by
  -- The separator begins with a hyphen, and the value does not.
  have goesOn : value ≠ separator := by
    rintro rfl
    exact plain rfl
  rw [read, if_neg goesOn, classify_of_plain grammar plain]

/-- An option that is written is read, and then the arguments behind it. -/
theorem read_written {grammar : Grammar} (sound : grammar.PassesOn) {option : Written}
    (fits : option.Fits grammar) (progress : Progress) (rest : List Bytes) :
    read grammar progress (option.arguments ++ rest) =
      progress.settle >>= fun settled => option.place settled >>= fun further =>
        read grammar further rest := by
  cases option with
  | bare rule =>
    -- The argument is taken for the option by its name, which is none of the other readings.
    obtain ⟨known, flag⟩ : rule ∈ grammar.rules ∧ rule.role = .flag := fits
    have goesOn := dashed_append_ne_separator sound known []
    rw [List.append_nil] at goesOn
    show read grammar progress (dashed rule.long :: rest) = _
    rw [read_named goesOn (classify_dashed sound known), takeOption_flag progress flag, bind_assoc]
  | joined rule value =>
    obtain ⟨known, takes, -⟩ : rule ∈ grammar.rules ∧ rule.takesValue ∧ _ := fits
    have goesOn := dashed_append_ne_separator sound known (equals :: value)
    show read grammar progress ((dashed rule.long ++ equals :: value) :: rest) = _
    rw [read_named goesOn (classify_joined sound known value), takeOption_joined progress takes,
      bind_assoc]
  | apart rule value =>
    obtain ⟨known, takes, -, plain⟩ : rule ∈ grammar.rules ∧ rule.takesValue ∧ _ ∧ _ := fits
    have goesOn := dashed_append_ne_separator sound known []
    rw [List.append_nil] at goesOn
    show read grammar progress (dashed rule.long :: value :: rest) = _
    rw [read_named goesOn (classify_dashed sound known), takeOption_awaiting progress takes]
    -- The argument behind the name is taken for its value.
    cases progress.settle with
    | error stop => rfl
    | ok settled => exact read_awaited grammar plain settled rule rest

/-- Texts are added as they are. -/
theorem addPositionals_utf8 (given : Given) (tokens : List String) :
    given.addPositionals (tokens.map utf8) =
      .ok { given with positionals := given.positionals ++ tokens } := by
  -- Each token is text, and joins behind those before it.
  induction tokens generalizing given with
  | nil => simp [Given.addPositionals]
  | cons token rest ih => simp [Given.addPositionals, ih]

/-- Where no option waits for a value, what begins no option is taken as it stands to the end. -/
theorem read_tokens {grammar : Grammar} (everything : grammar.tail = .everything)
    {tokens : List String} (begins : grammar.Begins (tokens.map utf8)) {progress : Progress}
    (awaitsNone : ∀ rule, progress.pending ≠ .awaiting rule) :
    (read grammar progress (tokens.map utf8) >>= Progress.settle) =
      progress.settle.map fun settled =>
        { settled with given :=
          { settled.given with positionals := settled.given.positionals ++ tokens } } := by
  cases tokens with
  | nil =>
    show progress.settle = _
    cases progress.settle <;> simp [Except.map]
  | cons first rest =>
    obtain ⟨goesOn, other⟩ := begins (utf8 first) rfl
    -- The first token is no option, so it and all behind it are positionals.
    have taken : read grammar progress ((first :: rest).map utf8) =
        progress.takePositionals grammar ((first :: rest).map utf8) := by
      rw [List.map_cons, read, if_neg goesOn, other]
      cases waiting : progress.pending with
      | awaiting rule => exact absurd waiting (awaitsNone rule)
      | nothing | valued | positionals => simp [everything]
    rw [taken, List.map_cons, Progress.takePositionals, everything]
    cases before : progress.settle with
    | error stop => rfl
    | ok settled =>
      -- Once everything before them is settled, the arguments are added, all of them texts.
      have added := addPositionals_utf8 settled.given (first :: rest)
      rw [List.map_cons] at added
      have nothing := pending_of_settle before
      simp [Except.map, bind, Except.bind, Progress.settle, added, nothing]

/-- Options in front of other arguments are added one after the other, and then the other arguments,
whatever they look like from the second one on. -/
theorem read_options_tokens {grammar : Grammar} (sound : grammar.PassesOn) {options : List Written}
    (fits : ∀ option ∈ options, option.Fits grammar) {tokens : List String}
    (begins : grammar.Begins (tokens.map utf8)) {progress : Progress}
    (awaitsNone : ∀ rule, progress.pending ≠ .awaiting rule) :
    (read grammar progress (options.flatMap Written.arguments ++ tokens.map utf8) >>=
        Progress.settle) =
      progress.settle >>= fun settled =>
        (options.foldlM Written.add settled.given).map fun given =>
          { settled with given := { given with positionals := given.positionals ++ tokens } } := by
  -- By induction on the options, for every place at which no value is awaited. Behind an option
  -- that is written none is, so the next option is looked for again, or else the tokens begin.
  induction options generalizing progress with
  | nil =>
    rw [List.flatMap_nil, List.nil_append, read_tokens sound.tail begins awaitsNone]
    cases progress.settle <;> rfl
  | cons option rest ih =>
    rw [List.flatMap_cons, List.append_assoc, read_written sound (fits option (by simp))]
    cases before : progress.settle with
    | error stop => rfl
    | ok settled =>
      have nothing := pending_of_settle before
      -- What the option gives is added as soon as it is settled, before the options behind it.
      have added := settle_place option nothing
      show ((option.place settled >>= fun further =>
          read grammar further (rest.flatMap Written.arguments ++ tokens.map utf8)) >>=
            Progress.settle) = ((option :: rest).foldlM Written.add settled.given).map _
      rw [List.foldlM_cons]
      cases placed : option.place settled with
      | error stop =>
        rw [placed] at added
        cases gives : option.add settled.given with
        | error other =>
          rw [gives] at added
          obtain rfl : stop = other := Except.error.inj added
          rfl
        | ok given =>
          rw [gives] at added
          cases added
      | ok further =>
        rw [placed] at added
        have settles : further.settle = _ := added
        show (read grammar further _ >>= Progress.settle) = _
        rw [ih (fun other member => fits other (by simp [member])) (pending_place nothing placed),
          settles]
        cases option.add settled.given <;> rfl

/-- What arguments and environment give is what the options give one after the other, with the other
arguments as they stand, and with what the environment adds to it in the end. -/
theorem Grammar.read_options_tokens {grammar : Grammar} (sound : grammar.PassesOn)
    {options : List Written} (fits : ∀ option ∈ options, option.Fits grammar)
    {tokens : List String} (begins : grammar.Begins (tokens.map utf8)) (environment : Environment) :
    grammar.read environment (options.flatMap Written.arguments ++ tokens.map utf8) =
      options.foldlM Written.add {} >>= fun given =>
        addEnvironment environment { given with positionals := given.positionals ++ tokens }
          grammar.rules := by
  -- Nothing is pending at the start, so that no first argument is taken for a value.
  have start := Arguments.read_options_tokens sound fits begins
    (show ∀ rule, ({} : Progress).pending ≠ .awaiting rule by simp)
  rw [Grammar.read, ← bind_assoc, start]
  show (((options.foldlM Written.add {}).map _) >>= _) = _
  cases options.foldlM Written.add {} <;> rfl

end Launcher.Arguments
