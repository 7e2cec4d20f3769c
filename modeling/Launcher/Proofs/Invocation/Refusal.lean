import Launcher.Proofs.Invocation.Building

/-! Which tokens are refused as a whole, and which of their faults is told. -/

namespace Launcher

namespace Request

open Options (lastGiven?)

/-- The tokens before the first malformed one, or all of them if none is malformed. -/
def beforeMalformed (tokens : List String) : List String :=
  tokens.takeWhile fun token => ¬ Token.Malformed token

/-- The fault to tell of tokens that have one: the first that applies, in the order below. -/
inductive FirstFault (tokens : List String) : LaunchError → Prop where
  /-- A token is malformed, and it is the first one that is. -/
  | malformed {before after : List String} {token : String}
    (split : tokens = before ++ token :: after) (broken : Token.Malformed token)
    (first : ∀ earlier ∈ before, ¬ Token.Malformed earlier) :
    FirstFault tokens (.malformedOption token)
  /-- There is no positional argument. -/
  | noPlan (wellFormed : ∀ token ∈ tokens, ¬ Token.Malformed token)
    (none : positionals tokens = []) : FirstFault tokens (.missingArgument "plan")
  /-- There is a single positional argument. -/
  | noScript (wellFormed : ∀ token ∈ tokens, ¬ Token.Malformed token)
    (single : (positionals tokens).length = 1) : FirstFault tokens (.missingArgument "script_name")
  /-- The text given last for the number of runs denotes none. -/
  | noCount (wellFormed : ∀ token ∈ tokens, ¬ Token.Malformed token)
    (enough : 2 ≤ (positionals tokens).length) {text : String}
    (last : lastGiven? (given tokens) "repeat" = some text)
    (undenoted : ∀ times, ¬ RepeatCount.Denotes text times) :
    FirstFault tokens (.invalidRepeat text)

/-- The tokens before a first malformed one are what it leaves in front of it. -/
theorem beforeMalformed_append {before after : List String} {token : String}
    (first : ∀ earlier ∈ before, ¬ Token.Malformed earlier) (broken : Token.Malformed token) :
    beforeMalformed (before ++ token :: after) = before := by
  -- What stands before the first malformed token is all that is not malformed from the start.
  rw [beforeMalformed, List.takeWhile_append_of_pos (by simpa using first),
    List.takeWhile_cons_of_neg (by simpa using broken), List.append_nil]

/-- Where no token is malformed, all of them count. -/
theorem beforeMalformed_eq_self {tokens : List String}
    (wellFormed : ∀ token ∈ tokens, ¬ Token.Malformed token) : beforeMalformed tokens = tokens :=
  List.takeWhile_eq_self_iff.mpr (by simpa using wellFormed)

/-- Tokens have a fault exactly if one is malformed, an argument is missing, or the number of runs
is not denoted. -/
theorem exists_firstFault_iff (tokens : List String) :
    (∃ error, FirstFault tokens error) ↔
      (∃ token ∈ tokens, Token.Malformed token) ∨ (positionals tokens).length < 2 ∨
        ∀ times, ¬ RepeatCount.Denotes (Invocation.timesText (given tokens)) times := by
  rcases none_or_first Token.Malformed tokens with
    wellFormed | ⟨before, token, after, split, broken, first⟩
  · have none : ¬ ∃ token ∈ tokens, Token.Malformed token := by simpa using wellFormed
    rw [or_iff_right none]
    constructor
    · rintro ⟨error, fault⟩
      -- Each fault of well-formed tokens is one of the two others.
      cases fault with
      | malformed split broken first => exact absurd broken (wellFormed _ (by simp [split]))
      | noPlan _ missing => simp [missing]
      | noScript _ single => simp [single]
      | noCount _ enough last undenoted =>
        right
        rwa [Invocation.timesText, last, Option.getD_some]
    · intro wrong
      by_cases enough : 2 ≤ (positionals tokens).length
      · have undenoted := wrong.resolve_left (by omega)
        exact ⟨_, .noCount wellFormed enough (Invocation.lastGiven?_of_undenoted undenoted)
          undenoted⟩
      · -- With fewer than two positional arguments, there is one or there is none.
        by_cases none : positionals tokens = []
        · exact ⟨_, .noPlan wellFormed none⟩
        · have some := List.length_pos_iff.mpr none
          exact ⟨_, .noScript wellFormed (by omega)⟩
  · have one : ∃ token ∈ tokens, Token.Malformed token := ⟨token, by simp [split], broken⟩
    exact iff_of_true ⟨_, .malformed split broken first⟩ (.inl one)

end Request

namespace Invocation

/-- Tokens are refused with an error, before there is anything to run. -/
def Refused (settings : Settings) (tokens : List String) (error : LaunchError) : Prop :=
  Request.ofTokens .defaults tokens = .error error ∨
    ∃ options positionals, Request.ofTokens .defaults tokens = .ok (.launch options positionals) ∧
      harness settings options positionals = .error error

/-- Tokens that are refused wish for nothing else first, and are refused for their first fault. -/
theorem firstFault_of_refused {settings : Settings} {tokens : List String} {error : LaunchError}
    (refused : Refused settings tokens error) :
    "--ls" ∉ tokens ∧ "--help" ∉ Request.beforeMalformed tokens ∧
      Request.FirstFault tokens error := by
  have verdict := Request.verdict_ofTokens .defaults tokens
  unfold Refused at refused
  generalize Request.ofTokens .defaults tokens = answer at refused verdict
  -- Only a malformed token and a launch can be refused.
  cases verdict with
  | listing wished => simp at refused
  | help noListing split unsettled => simp at refused
  | @malformed before after token noListing split broken unsettled =>
    obtain rfl : LaunchError.malformedOption token = error := by simpa using refused
    obtain ⟨noHelp, first⟩ := (Request.unsettled_iff before).mp unsettled
    refine ⟨noListing, ?_, .malformed split broken first⟩
    rwa [split, Request.beforeMalformed_append first broken]
  | launch noListing unsettled =>
    obtain ⟨noHelp, wellFormed⟩ := (Request.unsettled_iff tokens).mp unsettled
    refine ⟨noListing, ?_, ?_⟩
    · rwa [Request.beforeMalformed_eq_self wellFormed]
    · have wrong : harness settings (Options.defaults.setAll (Request.given tokens))
          (Request.positionals tokens) = .error error := by simpa using refused
      -- A launch lacks its plan or its script, or its count does not denote one.
      rcases (harness_eq_error_iff _ _ _ _).mp wrong with
        ⟨missing, rfl⟩ | ⟨single, rfl⟩ | ⟨enough, counted⟩
      · exact .noPlan wellFormed missing
      · exact .noScript wellFormed single
      · obtain ⟨rfl, undenoted⟩ := (timesOf_eq_error_iff _ _).mp counted
        exact .noCount wellFormed enough (lastGiven?_of_undenoted undenoted) undenoted

/-- Well-formed tokens are refused for what is wrong with the launch that they ask for. -/
theorem refused_of_wellFormed {settings : Settings} {tokens : List String} {error : LaunchError}
    (noListing : "--ls" ∉ tokens) (noHelp : "--help" ∉ Request.beforeMalformed tokens)
    (wellFormed : ∀ token ∈ tokens, ¬ Token.Malformed token)
    (wrong : harness settings (Options.defaults.setAll (Request.given tokens))
      (Request.positionals tokens) = .error error) : Refused settings tokens error := by
  -- Without a malformed token, the usage line is not wished for at all.
  rw [Request.beforeMalformed_eq_self wellFormed] at noHelp
  have unsettled := (Request.unsettled_iff tokens).mpr ⟨noHelp, wellFormed⟩
  exact .inr ⟨_, _, Request.ofTokens_of_unsettled .defaults noListing unsettled, wrong⟩

/-- Tokens are refused exactly for their first fault, unless something else is wished for first. -/
theorem refused_iff_firstFault (settings : Settings) (tokens : List String) (error : LaunchError) :
    Refused settings tokens error ↔
      "--ls" ∉ tokens ∧ "--help" ∉ Request.beforeMalformed tokens ∧
        Request.FirstFault tokens error := by
  refine ⟨firstFault_of_refused, ?_⟩
  rintro ⟨noListing, noHelp, fault⟩
  cases fault with
  | malformed split broken first =>
    subst split
    -- Of the tokens before the malformed one, none settles the request.
    rw [Request.beforeMalformed_append first broken] at noHelp
    have unsettled := (Request.unsettled_iff _).mpr ⟨noHelp, first⟩
    exact .inl (Request.ofTokens_of_malformed .defaults noListing unsettled broken)
  | noPlan wellFormed missing =>
    refine refused_of_wellFormed noListing noHelp wellFormed ?_
    exact (harness_eq_error_iff _ _ _ _).mpr (.inl ⟨missing, rfl⟩)
  | noScript wellFormed single =>
    refine refused_of_wellFormed noListing noHelp wellFormed ?_
    exact (harness_eq_error_iff _ _ _ _).mpr (.inr (.inl ⟨single, rfl⟩))
  | @noCount wellFormed enough text last undenoted =>
    -- The text given last is the one that tells how often to run.
    obtain rfl : timesText (Request.given tokens) = text := by
      rw [timesText, last, Option.getD_some]
    have counted := (timesOf_eq_error_iff _ _).mpr ⟨rfl, undenoted⟩
    refine refused_of_wellFormed noListing noHelp wellFormed ?_
    exact (harness_eq_error_iff _ _ _ _).mpr (.inr (.inr ⟨enough, counted⟩))

/-- Tokens are refused if the usage line is not wished for before the first malformed one, or if
there is none, not at all and an argument is missing or the number of runs is not denoted. -/
theorem exists_refused_iff (settings : Settings) (tokens : List String) :
    (∃ error, Refused settings tokens error) ↔
      "--ls" ∉ tokens ∧ "--help" ∉ Request.beforeMalformed tokens ∧
        ((∃ token ∈ tokens, Token.Malformed token) ∨
          ("--help" ∉ tokens ∧ (Request.positionals tokens).length < 2) ∨
          ("--help" ∉ tokens ∧
            ∀ times, ¬ RepeatCount.Denotes (timesText (Request.given tokens)) times)) := by
  simp only [refused_iff_firstFault, exists_and_left, Request.exists_firstFault_iff]
  refine and_congr_right fun noListing => and_congr_right fun noHelp => ?_
  by_cases malformed : ∃ token ∈ tokens, Token.Malformed token
  · simp only [malformed, true_or]
  · -- Where no token is malformed, a wish for the usage line anywhere comes first.
    have wellFormed : ∀ token ∈ tokens, ¬ Token.Malformed token := by simpa using malformed
    rw [Request.beforeMalformed_eq_self wellFormed] at noHelp
    simp only [malformed, noHelp, false_or, not_false_eq_true, true_and]

end Invocation

end Launcher
