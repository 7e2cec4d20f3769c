import Launcher.Proofs.Arguments.Supply
import Launcher.Proofs.Program.ExitStatus

/-! The tokens of the harness program: whatever stands behind its options is handed to the launch as
it stands, and only options, environment and standard values say where things are and whether to
print JSON. -/

namespace Launcher.Program

open Arguments (Written written? supplied? hyphen)

variable {δ ω : Type} [Sink δ]

/-- What is wrong with arguments is told beside the results, and nothing else happens. -/
theorem answer_fault_run (name : String) (grammar : Arguments.Grammar) (description : List String)
    (fault : Arguments.Fault) (state : Reporter δ × ω) :
    let step := (answer name grammar description (.fault fault)).run state
    step.value = usageStatus ∧ step.events.launches = [] ∧ step.events.written .out = [] := by
  intro step
  -- All that happens is that lines are offered to the sink for errors, taken or not.
  have offered : ∀ event ∈ step.events, ∃ taken failure, event = .write .err taken failure := by
    intro event member
    have own : event ∈ ((Reporter.writeLines .err
        [Terminal.plain (String.intercalate "\n" (grammar.complaint fault))]).run.run
          state.1).events := by
      simpa [step, answer, announce] using member
    exact Reporter.eq_write_of_mem_writeLines own
  -- Such a write neither starts a program nor reaches the results.
  refine ⟨rfl, List.filterMap_eq_nil_iff.mpr ?_, List.flatMap_eq_nil_iff.mpr ?_⟩
  · intro event member
    obtain ⟨taken, failure, rfl⟩ := offered event member
    rfl
  · intro event member
    obtain ⟨taken, failure, rfl⟩ := offered event member
    rfl

namespace Harness

/-- The options of the program that take a value. -/
theorem mem_rules_of_takesValue {rule : Arguments.Rule} (known : rule ∈ grammar.rules)
    (takes : rule.takesValue) : rule = javaRule ∨ rule = jarRule ∨ rule = scriptsDirRule := by
  -- The rules are few enough to look at each of them.
  revert takes
  revert rule
  decide

/-- The program passes on what stands behind its options. -/
theorem passesOn : grammar.PassesOn where
  tail := rfl
  named := by decide
  distinct := by decide
  standIns := by decide

/-- Tokens can stand behind options: there are none, or the first one does not start with a hyphen
or is a wish for the scripts or for the usage line. -/
def Opens (tokens : List String) : Prop :=
  ∀ first ∈ tokens.head?, (utf8 first).head? ≠ some hyphen ∨ first = "--ls" ∨ first = "--help"

/-- The program takes such tokens as they stand. -/
theorem begins_of_opens {tokens : List String} (opens : Opens tokens) :
    grammar.Begins (tokens.map utf8) := by
  cases tokens with
  | nil => simp [Arguments.Grammar.Begins]
  | cons token rest =>
    rintro first same
    obtain rfl : utf8 token = first := by simpa using same
    rcases opens token rfl with plain | rfl | rfl
    · refine ⟨?_, Arguments.classify_of_plain grammar plain⟩
      intro ends
      exact plain (congrArg List.head? ends)
    -- The program has no options of the two names.
    · decide +kernel
    · decide +kernel

/-- The text that is supplied, or a standard one; bytes that are no text supply none. -/
def textOr (standard : String) : Option Bytes → Option String
  | none => some standard
  | some value => Utf8.text? value

/-- The path that is supplied, or a standard one; no bytes at all supply none. -/
def pathOr (standard : Path) : Option Bytes → Option Path
  | none => some standard
  | some value => if value = [] then none else some ⟨value⟩

/-- Where things are: as options say, else as variables say, else in the standard places. -/
def settings? (environment : Arguments.Environment) (options : List Written) : Option Settings := do
  let standard : Settings := {}
  let java ← textOr standard.java (supplied? environment options javaRule)
  let harnessJar ← textOr standard.harnessJar (supplied? environment options jarRule)
  let scriptsDir ← pathOr standard.scriptsDir (supplied? environment options scriptsDirRule)
  return { standard with java, harnessJar, scriptsDir }

/-- Whether options ask for JSON. -/
def asksJson (options : List Written) : Bool := options.any fun option => option.rule = jsonRule

/-- A text is what is supplied, where that is fit for an option with a text. -/
theorem textOr_of_fit {given : Arguments.Given} {rule : Arguments.Rule} {supplied : Option Bytes}
    (value : given.values.lookup rule.long = supplied)
    (fit : ∀ value, supplied = some value → rule.Admits value) (text : rule.role ≠ .path)
    (standard : String) : textOr standard supplied = some (given.text rule.long standard) := by
  rw [Arguments.Given.text, value]
  cases supplied with
  | none => rfl
  | some bytes =>
    have admits := fit bytes rfl
    rw [Arguments.Rule.Admits, if_neg text] at admits
    -- A value that is fit is text, which strict and lenient reading agree on.
    obtain ⟨text, rfl⟩ := admits
    show Utf8.text? (utf8 text) = some (Utf8.lossy (utf8 text))
    rw [Utf8.lossy_utf8, Utf8.text?_utf8]

/-- Bytes that are not fit for an option with a text supply none. -/
theorem textOr_of_unfit {rule : Arguments.Rule} {value : Bytes} (unfit : ¬ rule.Admits value)
    (text : rule.role ≠ .path) (standard : String) : textOr standard (some value) = none := by
  -- For an option that is no path, a value that is not fit is no text.
  rw [Arguments.Rule.Admits, if_neg text] at unfit
  exact Utf8.text?_eq_none_iff.mpr unfit

/-- A path is what is supplied, where that is fit for an option with a path. -/
theorem pathOr_of_fit {rule : Arguments.Rule} {supplied : Option Bytes}
    (fit : ∀ value, supplied = some value → rule.Admits value) (path : rule.role = .path)
    (standard : Path) :
    pathOr standard supplied = some ((supplied.map Path.mk).getD standard) := by
  cases supplied with
  | none => rfl
  | some bytes =>
    have admits := fit bytes rfl
    rw [Arguments.Rule.Admits, if_pos path] at admits
    -- A path that is fit is not empty.
    exact if_neg admits

/-- Settings are supplied exactly if both texts and the path are. -/
theorem settings?_eq_some_iff (environment : Arguments.Environment) (options : List Written)
    (settings : Settings) :
    settings? environment options = some settings ↔
      ∃ java harnessJar scriptsDir,
        textOr "java" (supplied? environment options javaRule) = some java ∧
        textOr "dist/mmtk-harness.jar" (supplied? environment options jarRule) = some harnessJar ∧
        pathOr (.ofText "MMTk/harness/test-scripts")
          (supplied? environment options scriptsDirRule) = some scriptsDir ∧
        settings = { java, harnessJar, scriptsDir } := by
  -- There are settings only if each of the three values can be used.
  simp only [settings?, bind, Option.bind_eq_some_iff, pure, Option.some.injEq]
  constructor
  · rintro ⟨java, readJava, jar, readJar, scripts, readScripts, rfl⟩
    exact ⟨java, jar, scripts, readJava, readJar, readScripts, rfl⟩
  · rintro ⟨java, jar, scripts, readJava, readJar, readScripts, rfl⟩
    exact ⟨java, readJava, jar, readJar, scripts, readScripts, rfl⟩

section Reading

variable {options : List Written}
  (fits : ∀ option ∈ options, option.Fits grammar)
  (once : (options.map fun option => option.rule.long).Nodup) {tokens : List String}
  (opens : Opens tokens)

include fits in
/-- Among what was read, the option for JSON is there exactly if it is written. -/
theorem contains_json :
    (options.filterMap Written.flag?).contains jsonRule.long = asksJson options := by
  -- No other option has the name, and this one does not take a value.
  have named : ∀ rule ∈ grammar.rules, rule.long = jsonRule.long → rule = jsonRule := by
    decide
  rw [Bool.eq_iff_iff, List.contains_iff_mem, List.mem_filterMap, asksJson, List.any_eq_true]
  constructor
  · rintro ⟨option, member, flag⟩
    refine ⟨option, member, decide_eq_true ?_⟩
    cases option with
    | bare rule => exact named rule (fits _ member).1 (Option.some.inj flag)
    | joined rule value | apart rule value => cases flag
  · -- The option for JSON fits the grammar only where it is bare.
    rintro ⟨option, member, same⟩
    have same := of_decide_eq_true same
    refine ⟨option, member, ?_⟩
    cases option with
    | bare rule => exact congrArg (fun rule => some rule.long) same
    | joined rule value | apart rule value =>
      obtain rfl : rule = jsonRule := same
      obtain ⟨-, takes, -⟩ := fits _ member
      cases takes

/-- What was read makes up settings. -/
theorem settings?_of_collects {environment : Arguments.Environment} {given : Arguments.Given}
    (collects : given.Collects grammar environment options tokens) :
    settings? environment options = some (Order.ofGiven given).settings := by
  -- What is fit for the two options with a text is one, so reading it loosely changes nothing.
  have text : ∀ rule ∈ grammar.rules, rule.role ≠ .path → ∀ standard,
      textOr standard (supplied? environment options rule) =
        some (given.text rule.long standard) := fun rule known role =>
    textOr_of_fit (collects.values rule known) (collects.fit rule known) role
  have known : scriptsDirRule ∈ grammar.rules := by decide
  -- The directory is a path, which is used byte for byte.
  have path := pathOr_of_fit (collects.fit scriptsDirRule known) rfl
    (.ofText "MMTk/harness/test-scripts")
  rw [settings?_eq_some_iff]
  refine ⟨_, _, _, text javaRule (by decide) (by decide) _,
    text jarRule (by decide) (by decide) _, path, ?_⟩
  have value := collects.values scriptsDirRule known
  simp only [Order.ofGiven, value]
  cases supplied? environment options scriptsDirRule <;> rfl

/-- A value that is not fit for its option makes up no settings. -/
theorem settings?_of_unfit {environment : Arguments.Environment} {rule : Arguments.Rule}
    (known : rule ∈ grammar.rules) (takes : rule.takesValue) {value : Bytes}
    (supplied : supplied? environment options rule = some value) (unfit : ¬ rule.Admits value) :
    settings? environment options = none := by
  refine Option.eq_none_iff_forall_ne_some.mpr fun settings some => ?_
  -- Settings would need all three values, and so the one that is not fit.
  obtain ⟨java, jar, scripts, readJava, readJar, readScripts, -⟩ :=
    (settings?_eq_some_iff environment options settings).mp some
  rcases mem_rules_of_takesValue known takes with rfl | rfl | rfl
  · rw [supplied, textOr_of_unfit unfit (by decide)] at readJava
    cases readJava
  · rw [supplied, textOr_of_unfit unfit (by decide)] at readJar
    cases readJar
  · have path : scriptsDirRule.role = .path := rfl
    rw [Arguments.Rule.Admits, if_pos path, not_not] at unfit
    rw [supplied, pathOr, if_pos unfit] at readScripts
    cases readScripts

include fits once opens in
/-- Options and tokens make up an order exactly if settings are supplied, and otherwise something is
wrong with them. -/
theorem order_cases (environment : Arguments.Environment) :
    let arguments := options.flatMap Written.arguments ++ tokens.map utf8
    (∃ settings, settings? environment options = some settings ∧
        Harness.order environment arguments = .ok ⟨settings, asksJson options, tokens⟩) ∨
      settings? environment options = none ∧
        ∃ fault, Harness.order environment arguments = .error (.fault fault) := by
  -- Reading either collects what is supplied, or meets a value that is not fit for its option.
  intro arguments
  rcases Arguments.Grammar.read_cases passesOn fits once (begins_of_opens opens) environment with
    ⟨given, read, collects⟩ | ⟨⟨rule, known, takes, value, supplied, unfit⟩, fault, refused⟩
  · refine .inl ⟨_, settings?_of_collects collects, ?_⟩
    rw [Harness.order, show grammar.read environment arguments = _ from read]
    -- The flags that were collected tell whether the option for JSON is among the options.
    have flags := contains_json fits
    rw [← collects.flags] at flags
    rw [← flags, ← collects.positionals]
    rfl
  · refine .inr ⟨settings?_of_unfit known takes supplied unfit, fault, ?_⟩
    rw [Harness.order, show grammar.read environment arguments = _ from refused]
    rfl

end Reading

variable [Host ω]

/-- What the program does with an order: it logs it, launches what exactly its tokens ask for, and
ends with zero, or with telling of the error that ended the launch. -/
def conduct (order : Order) (state : Reporter δ × ω) : Step (Reporter δ × ω) Nat :=
  let launch := (Launch.harness order.settings order.tokens :
    Launching δ ω (Option Report)).run.run state
  let ending : Step (Reporter δ × ω) Nat :=
    match launch.value with
    | .ok _ => ⟨0, [], launch.state⟩
    | .error error => (fail order.json error).run launch.state
  { value := ending.value
    events := .log (.resolving order.tokens order.settings.java order.settings.harnessJar) ::
      (launch.events ++ ending.events)
    state := ending.state }

/-- Carrying out an order is no more than that. -/
theorem execute_run (order : Order) (state : Reporter δ × ω) :
    (execute order).run state = conduct order state := by
  -- Both sides run the launch and then look at how it ended.
  unfold conduct
  simp only [execute, Action.run_bind, Action.run_log]
  cases ended : ((Launch.harness order.settings order.tokens :
      Launching δ ω (Option Report)).run.run state).value with
  | ok result => simp
  | error error => simp

/-- Whatever stands behind the options of the program, from the first argument on that is no option,
is handed to the launch as it stands and has no say in anything else: the settings are those that
options, environment and standard places supply, and the mode is the one that the options ask for.
Only where a value that is supplied is not fit are there no settings; then the program ends with the
status for mistakes on the command line, and nothing is launched or printed as a result. -/
theorem tokens_passed_untouched (environment : Arguments.Environment) {options : List Written}
    (fits : ∀ option ∈ options, option.Fits grammar)
    (once : (options.map fun option => option.rule.long).Nodup) {tokens : List String}
    (opens : Opens tokens) (out err : δ) (world : ω) :
    let arguments := options.flatMap Written.arguments ++ tokens.map utf8
    let step := start environment arguments out err world
    (∀ settings, settings? environment options = some settings →
      let order : Order := { settings, json := asksJson options, tokens }
      Harness.order environment arguments = .ok order ∧
        step = conduct order ({ json := order.json, out, err }, world)) ∧
    (settings? environment options = none →
      (∃ fault, Harness.order environment arguments = .error (.fault fault)) ∧
        step.value = 2 ∧ step.events.launches = [] ∧ step.events.written .out = []) := by
  intro arguments step
  rcases order_cases fits once opens environment with
    ⟨settings, supplied, read⟩ | ⟨unsupplied, fault, refused⟩
  · -- The order that was read is the one that the settings, the mode and the tokens make up.
    refine ⟨?_, fun none => absurd (supplied.symm.trans none) (Option.some_ne_none settings)⟩
    intro other same order
    obtain rfl : settings = other := Option.some.inj (supplied.symm.trans same)
    refine ⟨read, ?_⟩
    rw [← execute_run]
    exact start_of_read read out err world
  · -- A value that cannot be used is answered with a complaint before anything is carried out.
    refine ⟨fun settings some => ?_, fun _ => ?_⟩
    · rw [unsupplied] at some
      cases some
    · have answered : step =
          (answer name grammar [] (.fault fault)).run ({ json := false, out, err }, world) := by
        simp only [step, arguments, start, refused]
      rw [answered]
      exact ⟨⟨fault, refused⟩, answer_fault_run name grammar [] fault _⟩

/-- Options in each of the ways in which they can be written, in front of tokens that look like
options themselves; a variable that is no text does not matter where its option is written. -/
theorem tokens_passed_untouched_behind_options :
    let environment : Arguments.Environment :=
      [("MMTK_HARNESS_JAVA", [0xFF]), ("MMTK_HARNESS_JAR", utf8 "h.jar")]
    let options : List Written :=
      [.joined javaRule (utf8 "./j"), .bare jsonRule, .apart scriptsDirRule [0xFF]]
    let tokens := ["GenMS", "alloc", "--json", "--java=x", "--version", "--", "--java=y"]
    let settings : Settings := { java := "./j", harnessJar := "h.jar", scriptsDir := ⟨[0xFF]⟩ }
    let order : Order := { settings, json := true, tokens }
    let arguments := options.flatMap Written.arguments ++ tokens.map utf8
    (∀ option ∈ options, option.Fits grammar) ∧
      (options.map fun option => option.rule.long).Nodup ∧ Opens tokens ∧
      settings? environment options = some settings ∧
      Harness.order environment arguments = .ok order ∧
      start environment arguments ({} : BoundedSink) {} ({} : Launch.Rehearsal) =
        conduct order ({ json := true, out := {}, err := {} }, {}) := by
  intro environment options tokens settings order arguments
  have fits : ∀ option ∈ options, option.Fits grammar := by decide
  have once : (options.map fun option => option.rule.long).Nodup := by decide
  have opens : Opens tokens := by
    intro first same
    obtain rfl : "GenMS" = first := by simpa [tokens] using same
    exact .inl (by decide)
  have supplied : settings? environment options = some settings := by decide +kernel
  -- The first token is no option, so that the later ones are not looked at.
  have passed := tokens_passed_untouched environment fits once opens ({} : BoundedSink) {}
    ({} : Launch.Rehearsal)
  obtain ⟨read, same⟩ := passed.1 settings supplied
  exact ⟨fits, once, opens, supplied, read, same⟩

/-- A value that is no text, and a variable that is an empty path: either keeps back the usage line,
which any settings would do for. -/
theorem usage_line_kept_back_by_unfit_value :
    let tokens := ["--help"]
    let options : List Written := [.apart javaRule [0xFF]]
    let environment : Arguments.Environment := [("MMTK_HARNESS_SCRIPTS_DIR", [])]
    let run (environment : Arguments.Environment) (options : List Written) :=
      start environment (options.flatMap Written.arguments ++ tokens.map utf8) ({} : BoundedSink) {}
        ({} : Launch.Rehearsal)
    ((∀ option ∈ options, option.Fits grammar) ∧
        (options.map fun option => option.rule.long).Nodup ∧ Opens tokens) ∧
      (run [] options).value = 2 ∧ (run environment []).value = 2 ∧
      ∀ settings json, (conduct { settings, json, tokens }
        (({ json, out := {}, err := {} } : Reporter BoundedSink), ({} : Launch.Rehearsal))).value =
          0 := by
  intro tokens options environment run
  refine ⟨⟨by decide +kernel, by decide +kernel, ?_⟩, by decide +kernel, by decide +kernel, ?_⟩
  · intro first same
    obtain rfl : "--help" = first := by simpa [tokens] using same
    exact .inr (.inr rfl)
  · -- Behind the reading of the options, help is given in either mode.
    intro settings json
    cases json <;> rfl

end Harness

end Launcher.Program
