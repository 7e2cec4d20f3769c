import Launcher.Proofs.Arguments.Written
import Launcher.Proofs.Options.Lookup

/-! What options and environment supply: each option has the value that is written for it, else that
of its variable, and reading fails exactly if one of these values is not fit for its option. -/

namespace Launcher.Arguments

/-- A value is fit for an option: a path is not empty, and anything else is text. -/
def Rule.Admits (rule : Rule) (value : Bytes) : Prop :=
  if rule.role = .path then value ≠ [] else ∃ text, value = utf8 text

namespace Written

/-- The name and the value of an option that is written with one. -/
def entry? : Written → Option (String × Bytes)
  | .bare _ => none
  | .joined rule value | .apart rule value => some (rule.long, value)

/-- The name of an option that is written alone. -/
def flag? : Written → Option String
  | .bare rule => some rule.long
  | .joined _ _ | .apart _ _ => none

/-- What was given before, and behind it what an option gives. -/
def addedTo (option : Written) (given : Given) : Given :=
  { given with
    values := given.values ++ option.entry?.toList
    flags := given.flags ++ option.flag?.toList }

/-- An option is written without a value that is not fit for it. -/
def Admitted : Written → Prop
  | .bare _ => True
  | .joined rule value | .apart rule value => rule.Admits value

end Written

/-- The value that an option of a name is written with. -/
def written? (options : List Written) (name : String) : Option Bytes :=
  (options.filterMap Written.entry?).lookup name

/-- The value that the variable of an option has, if it has one. -/
def Rule.standIn? (environment : Environment) (rule : Rule) : Option Bytes :=
  rule.environment.bind (environment.lookup ·)

/-- The value that an option is supplied with: the one written, else that of its variable. -/
def supplied? (environment : Environment) (options : List Written) (rule : Rule) : Option Bytes :=
  (written? options rule.long).or (rule.standIn? environment)

/-- A value that is fit for an option is added. -/
theorem addValue_of_admits (given : Given) {rule : Rule} {value : Bytes}
    (admits : rule.Admits value) :
    given.addValue rule value =
      .ok { given with values := given.values ++ [(rule.long, value)] } := by
  -- What is fit is defined by the kinds of option, and adding looks at the same kinds.
  unfold Rule.Admits at admits
  unfold Given.addValue
  split at admits
  case isTrue path => simp [path, admits]
  case isFalse other =>
    obtain ⟨text, rfl⟩ := admits
    simp [other]

/-- A value that is not fit for an option is refused. -/
theorem addValue_of_unfit (given : Given) {rule : Rule} {value : Bytes}
    (unfit : ¬ rule.Admits value) :
    ∃ fault, given.addValue rule value = .error (.fault fault) := by
  unfold Rule.Admits at unfit
  unfold Given.addValue
  split at unfit
  case isTrue path =>
    -- Of all paths, the empty one alone is not fit.
    obtain rfl : value = [] := by simpa using unfit
    exact ⟨.valueMissing rule, by simp [path, fail]⟩
  case isFalse other =>
    -- Anything that is text is fit for another option.
    have noText := Utf8.text?_eq_none_iff.mpr unfit
    exact ⟨.notText, by simp [other, noText, fail]⟩

/-- An option that was not given before is added if it is written with a value that is fit. -/
theorem add_of_admitted {given : Given} {option : Written} (admitted : option.Admitted)
    (newValue : option.rule.long ∉ given.values.map Prod.fst)
    (newFlag : option.rule.long ∉ given.flags) : option.add given = .ok (option.addedTo given) := by
  -- An option with a value is looked for among the values, a bare one among the flags; either is
  -- new.
  have unheard := Options.lookup_eq_none_iff_not_mem.mpr newValue
  cases option with
  | bare rule =>
    have unset : rule.long ∉ given.flags := newFlag
    simp [Written.add, Given.addFlag, unset, Written.addedTo, Written.entry?, Written.flag?]
  | joined rule value | apart rule value =>
    have unset : given.values.lookup rule.long = none := unheard
    simp [Written.add, Given.addOption, unset, addValue_of_admits given admitted, Written.addedTo,
      Written.entry?, Written.flag?]

/-- An option that is written with a value that is not fit is refused. -/
theorem add_of_unfit (given : Given) {option : Written} (unfit : ¬ option.Admitted) :
    ∃ fault, option.add given = .error (.fault fault) := by
  cases option with
  | bare rule => exact absurd trivial unfit
  | joined rule value | apart rule value =>
    show ∃ fault, given.addOption rule value = .error (.fault fault)
    -- A value that is not fit is refused, if not because the option was given before.
    unfold Given.addOption
    split
    · exact ⟨.repeated rule, rfl⟩
    · exact addValue_of_unfit given unfit

/-- Options that are given once each are added in order, or one of them is not fit and refused. -/
theorem foldlM_add_cases {options : List Written}
    (once : (options.map fun option => option.rule.long).Nodup) {given : Given}
    (new : ∀ option ∈ options,
      option.rule.long ∉ given.values.map Prod.fst ∧ option.rule.long ∉ given.flags) :
    (∀ option ∈ options, option.Admitted) ∧
        options.foldlM Written.add given = .ok { given with
          values := given.values ++ options.filterMap Written.entry?
          flags := given.flags ++ options.filterMap Written.flag? } ∨
      (∃ option ∈ options, ¬ option.Admitted) ∧
        ∃ fault, options.foldlM Written.add given = .error (.fault fault) := by
  -- By induction on the options, for whatever was given before, as long as none of them was.
  induction options generalizing given with
  | nil => exact .inl ⟨by simp, by simp [pure, Except.pure]⟩
  | cons option rest ih =>
    rw [List.map_cons, List.nodup_cons] at once
    by_cases admitted : option.Admitted
    · obtain ⟨newValue, newFlag⟩ := new option (by simp)
      have added := add_of_admitted admitted newValue newFlag
      -- The options behind the first one have other names, so they are still new.
      have others : ∀ other ∈ rest,
          other.rule.long ∉ (option.addedTo given).values.map Prod.fst ∧
            other.rule.long ∉ (option.addedTo given).flags := by
        intro other member
        have different : other.rule.long ≠ option.rule.long := fun same =>
          once.1 (List.mem_map.mpr ⟨other, member, same⟩)
        obtain ⟨otherValue, otherFlag⟩ := new other (by simp [member])
        cases option <;> simp_all [Written.addedTo, Written.entry?, Written.flag?, Written.rule]
      rw [List.foldlM_cons, added]
      refine (ih once.2 others).imp ?_ ?_
      · rintro ⟨fit, all⟩
        refine ⟨by simpa using ⟨admitted, fit⟩, all.trans ?_⟩
        cases option <;>
          simp [Written.addedTo, List.filterMap_cons, Written.entry?, Written.flag?]
      · rintro ⟨⟨other, member, unfit⟩, refused⟩
        exact ⟨⟨other, by simp [member], unfit⟩, refused⟩
    · obtain ⟨fault, refused⟩ := add_of_unfit given admitted
      rw [List.foldlM_cons, refused]
      exact .inr ⟨⟨option, by simp, admitted⟩, fault, rfl⟩

/-- An option without a value gets the one of its variable, if that is fit, and nothing else
changes. -/
theorem addEnvironment_cons (environment : Environment) (rule : Rule) (rest : List Rule)
    (given : Given) :
    (∃ values, addEnvironment environment given (rule :: rest) =
          addEnvironment environment { given with values } rest ∧
        (∀ name, name ≠ rule.long → values.lookup name = given.values.lookup name) ∧
        values.lookup rule.long =
          (given.values.lookup rule.long).or (rule.standIn? environment) ∧
        ∀ value, given.values.lookup rule.long = none →
          rule.standIn? environment = some value → rule.Admits value) ∨
      (∃ value, given.values.lookup rule.long = none ∧
        rule.standIn? environment = some value ∧ ¬ rule.Admits value) ∧
        ∃ fault, addEnvironment environment given (rule :: rest) = .error (.fault fault) := by
  -- Where there is a value already, the variable is not even looked at, so it may hold anything.
  cases already : given.values.lookup rule.long with
  | some value =>
    refine .inl ⟨given.values, ?_, by simp, by simp [already], by simp⟩
    rw [addEnvironment, already]
  | none =>
    cases standIn : rule.standIn? environment with
    | none =>
      have looked : rule.environment.bind (environment.lookup ·) = none := standIn
      refine .inl ⟨given.values, ?_, by simp, by simp [already], by simp⟩
      rw [addEnvironment, already, looked]
    | some value =>
      have looked : rule.environment.bind (environment.lookup ·) = some value := standIn
      have tried : addEnvironment environment given (rule :: rest) =
          given.addValue rule value >>= fun further => addEnvironment environment further rest := by
        rw [addEnvironment, already, looked]
      -- The variable has a value, which is added if it is fit and refused otherwise.
      by_cases admits : rule.Admits value
      · refine .inl ⟨given.values ++ [(rule.long, value)], ?_, ?_, ?_, ?_⟩
        · rw [tried, addValue_of_admits given admits]
          rfl
        · intro name other
          rw [List.lookup_append, Options.lookup_cons_eq, if_neg other]
          simp
        · simp [List.lookup_append, already]
        · rintro other - same
          rwa [← Option.some.inj same]
      · obtain ⟨fault, refused⟩ := addValue_of_unfit given admits
        refine .inr ⟨⟨value, rfl, rfl, admits⟩, fault, ?_⟩
        rw [tried, refused]
        rfl

/-- Options without a value get the one of their variable, and everything else stays; or one of
these values is not fit and refused. -/
theorem addEnvironment_cases (environment : Environment) {rules : List Rule}
    (distinct : (rules.map Rule.long).Nodup) (given : Given) :
    (∃ values, addEnvironment environment given rules = .ok { given with values } ∧
        (∀ name ∉ rules.map Rule.long, values.lookup name = given.values.lookup name) ∧
        ∀ rule ∈ rules,
          values.lookup rule.long =
            (given.values.lookup rule.long).or (rule.standIn? environment) ∧
          ∀ value, given.values.lookup rule.long = none →
            rule.standIn? environment = some value → rule.Admits value) ∨
      (∃ rule ∈ rules, ∃ value, given.values.lookup rule.long = none ∧
        rule.standIn? environment = some value ∧ ¬ rule.Admits value) ∧
        ∃ fault, addEnvironment environment given rules = .error (.fault fault) := by
  -- By induction on the options: names that are not among them keep their values, so what the first
  -- option got is still there in the end, and the others still find what was there before.
  induction rules generalizing given with
  | nil => exact .inl ⟨given.values, rfl, by simp, by simp⟩
  | cons rule rest ih =>
    rw [List.map_cons, List.nodup_cons] at distinct
    obtain ⟨unlisted, distinct⟩ := distinct
    have others : ∀ other ∈ rest, other.long ≠ rule.long := fun other member same =>
      unlisted (List.mem_map.mpr ⟨other, member, same⟩)
    rcases addEnvironment_cons environment rule rest given with
      ⟨values, first, kept, own, fit⟩ | ⟨⟨value, unset, standIn, unfit⟩, refused⟩
    · rw [first]
      rcases ih distinct { given with values } with
        ⟨all, filled, passed, each⟩ | ⟨⟨other, member, value, unset, standIn, unfit⟩, refused⟩
      · refine .inl ⟨all, filled, ?_, ?_⟩
        · intro name unnamed
          obtain ⟨different, later⟩ := not_or.mp (mt List.mem_cons.mpr unnamed)
          exact (passed name later).trans (kept name different)
        · intro other member
          rcases List.mem_cons.mp member with rfl | later
          · -- What comes later leaves the first option alone, as it has another name.
            exact ⟨(passed _ unlisted).trans own, fit⟩
          · have same := kept _ (others other later)
            exact same ▸ each other later
      · have same := kept _ (others other member)
        exact .inr ⟨⟨other, by simp [member], value, same ▸ unset, standIn, unfit⟩, refused⟩
    · exact .inr ⟨⟨rule, by simp, value, unset, standIn, unfit⟩, refused⟩

/-- What was read holds the value that each option is supplied with, which is fit for it, the
options that are only given or not, and the other arguments. -/
structure Given.Collects (given : Given) (grammar : Grammar) (environment : Environment)
    (options : List Written) (tokens : List String) : Prop where
  /-- Each option has the value that it is supplied with. -/
  values : ∀ rule ∈ grammar.rules,
    given.values.lookup rule.long = supplied? environment options rule
  /-- Each of these values is fit for its option. -/
  fit : ∀ rule ∈ grammar.rules, ∀ value, supplied? environment options rule = some value →
    rule.Admits value
  /-- The options that are only given or not. -/
  flags : given.flags = options.filterMap Written.flag?
  /-- The other arguments as they stand. -/
  positionals : given.positionals = tokens

/-- The names of options that are written with a value are in order among the names of all. -/
theorem entries_sublist (options : List Written) :
    ((options.filterMap Written.entry?).map Prod.fst).Sublist
      (options.map fun option => option.rule.long) := by
  -- Only options with a value have an entry, so names are left out and none is moved.
  induction options with
  | nil => exact .slnil
  | cons option rest ih =>
    cases option with
    | bare rule => exact ih.cons rule.long
    | joined rule value => exact ih.cons_cons rule.long
    | apart rule value => exact ih.cons_cons rule.long

section Supply

variable {grammar : Grammar} (sound : grammar.PassesOn) {options : List Written}
  (fits : ∀ option ∈ options, option.Fits grammar)

include sound fits in
/-- A written value is that of an option which takes one, and is fit if the option is written so. -/
theorem of_written? {rule : Rule} (known : rule ∈ grammar.rules) {value : Bytes}
    (written : written? options rule.long = some value) :
    rule.takesValue ∧ ((∀ option ∈ options, option.Admitted) → rule.Admits value) := by
  -- The value was written with some option.
  obtain ⟨before, after, split, -⟩ := List.lookup_eq_some_iff.mp written
  obtain ⟨option, member, entry⟩ := List.mem_filterMap.mp
    (show (rule.long, value) ∈ options.filterMap Written.entry? by simp [split])
  -- The option of the value is known by its name.
  have named : ∀ other ∈ grammar.rules, other.long = rule.long → other = rule := by
    intro other member same
    have found := find?_long sound member
    rw [same, find?_long sound known] at found
    exact (Option.some.inj found).symm
  cases option with
  | bare other => cases entry
  | joined other own | apart other own =>
    obtain ⟨same, rfl⟩ := Prod.mk.inj (Option.some.inj entry)
    obtain ⟨listed, takes, -⟩ := fits _ member
    obtain rfl := named other listed same
    exact ⟨takes, fun admitted => admitted _ member⟩

include fits in
/-- A written value that is not fit is supplied to an option that takes one. -/
theorem exists_unfit_of_written
    (once : (options.map fun option => option.rule.long).Nodup) {option : Written}
    (member : option ∈ options) (unfit : ¬ option.Admitted) :
    ∃ rule ∈ grammar.rules, rule.takesValue ∧
      ∃ value, written? options rule.long = some value ∧ ¬ rule.Admits value := by
  -- No name is given twice, so looking it up finds the very value.
  have distinct := (entries_sublist options).nodup once
  have found : ∀ entry, option.entry? = some entry →
      (options.filterMap Written.entry?).lookup entry.1 = some entry.2 := fun entry own =>
    Options.lookup_of_mem distinct (List.mem_filterMap.mpr ⟨option, member, own⟩)
  cases option with
  | bare rule => exact absurd trivial unfit
  | joined rule value | apart rule value =>
    obtain ⟨known, takes, -⟩ := fits _ member
    exact ⟨rule, known, takes, value, found (rule.long, value) rfl, unfit⟩

include sound fits in
/-- Reading options in front of other arguments collects what options and environment supply, with
the other arguments as they stand, or fails because a supplied value is not fit for its option. -/
theorem Grammar.read_cases (once : (options.map fun option => option.rule.long).Nodup)
    {tokens : List String} (begins : grammar.Begins (tokens.map utf8)) (environment : Environment) :
    let arguments := options.flatMap Written.arguments ++ tokens.map utf8
    (∃ given, grammar.read environment arguments = .ok given ∧
        given.Collects grammar environment options tokens) ∨
      (∃ rule ∈ grammar.rules, rule.takesValue ∧
        ∃ value, supplied? environment options rule = some value ∧ ¬ rule.Admits value) ∧
        ∃ fault, grammar.read environment arguments = .error (.fault fault) := by
  intro arguments
  have reads : grammar.read environment arguments = _ :=
    Grammar.read_options_tokens sound fits begins environment
  -- Nothing was given before the first option.
  have new : ∀ option ∈ options, option.rule.long ∉ ({} : Given).values.map Prod.fst ∧
      option.rule.long ∉ ({} : Given).flags := by simp
  rcases foldlM_add_cases once new with
    ⟨admitted, added⟩ | ⟨⟨option, member, unfit⟩, fault, refused⟩
  · rw [added] at reads
    -- All written values are fit, so it is up to the environment.
    rcases addEnvironment_cases environment sound.distinct _ with
      ⟨values, filled, -, each⟩ | ⟨⟨rule, known, value, unset, standIn, unfit⟩, fault, refused⟩
    · refine .inl ⟨_, reads.trans filled, ?_, ?_, ?_, ?_⟩
      · intro rule known
        exact (each rule known).1
      · intro rule known value supplied
        cases written : written? options rule.long with
        | some own =>
          rw [supplied?, written, Option.some_or] at supplied
          obtain rfl := Option.some.inj supplied
          exact (of_written? sound fits known written).2 admitted
        | none =>
          rw [supplied?, written, Option.none_or] at supplied
          exact (each rule known).2 value written supplied
      · simp
      · simp
    · have takes : rule.takesValue := by
        refine sound.standIns rule known ?_
        obtain ⟨name, named, -⟩ := Option.bind_eq_some_iff.mp standIn
        simp [named]
      refine .inr ⟨⟨rule, known, takes, value, ?_, unfit⟩, fault, reads.trans refused⟩
      have written : written? options rule.long = none := unset
      rw [supplied?, written, Option.none_or, standIn]
  · -- A value that was written is not fit, and the environment is not asked.
    obtain ⟨rule, known, takes, value, written, unfit⟩ :=
      exists_unfit_of_written fits once member unfit
    rw [refused] at reads
    refine .inr ⟨⟨rule, known, takes, value, ?_, unfit⟩, fault, reads⟩
    rw [supplied?, written, Option.some_or]

end Supply

end Launcher.Arguments
