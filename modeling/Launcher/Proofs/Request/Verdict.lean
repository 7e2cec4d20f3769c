import Launcher.Proofs.Request.Scan

/-! What tokens ask for is settled by a wish for a list, wherever it stands, or else by the first
token that settles it. -/

namespace Launcher

namespace Token

/-- A malformed token has an equals sign, so it is not the wish for the usage line. -/
theorem ne_help_of_malformed {token : String} (broken : Malformed token) : token ≠ "--help" := by
  rintro rfl
  -- The wish for the usage line has no equals sign.
  exact absurd broken (by decide)

end Token

namespace Request

variable (start : Options) {before tokens : List String}

/-- Without a wish for a list of scripts, the tokens are scanned. -/
theorem ofTokens_eq_scan (noListing : "--ls" ∉ tokens) :
    ofTokens start tokens = scan start [] tokens := by
  -- The search for the listing token finds nothing.
  have quiet : tokens.contains Token.listingText = false := by
    simpa [Token.listingText] using noListing
  rw [ofTokens, quiet, if_neg Bool.false_ne_true]

/-- A wish for a list of scripts is granted wherever it stands. -/
theorem ofTokens_of_listing (wished : "--ls" ∈ tokens) :
    ofTokens start tokens = .ok .listScripts := by
  -- The listing token is looked for before anything else.
  have found : tokens.contains Token.listingText := by
    simpa [Token.listingText] using wished
  rw [ofTokens, if_pos found]

/-- Tokens that settle nothing ask for a launch with all that they give. -/
theorem ofTokens_of_unsettled (noListing : "--ls" ∉ tokens)
    (unsettled : ∀ token ∈ tokens, ¬ Token.Settles token) :
    ofTokens start tokens = .ok (.launch (start.setAll (given tokens)) (positionals tokens)) := by
  -- The scan goes through all tokens, and nothing is left behind them.
  have through := scan_append start [] unsettled []
  rw [List.append_nil, List.nil_append] at through
  rw [ofTokens_eq_scan start noListing, through, scan]

/-- A wish for the usage line is granted if nothing before it settles the request. -/
theorem ofTokens_of_help {after : List String}
    (noListing : "--ls" ∉ before ++ "--help" :: after)
    (unsettled : ∀ token ∈ before, ¬ Token.Settles token) :
    ofTokens start (before ++ "--help" :: after) = .ok .help := by
  -- Tokens that settle nothing are passed by, and the scan ends where help is asked for.
  have read : Token.read "--help" = .help := by simp [Token.read_eq]
  rw [ofTokens_eq_scan start noListing, scan_append start [] unsettled]
  simp only [scan, read]

/-- A malformed token is refused if nothing before it settles the request. -/
theorem ofTokens_of_malformed {after : List String} {token : String}
    (noListing : "--ls" ∉ before ++ token :: after)
    (unsettled : ∀ earlier ∈ before, ¬ Token.Settles earlier) (broken : Token.Malformed token) :
    ofTokens start (before ++ token :: after) = .error (.malformedOption token) := by
  -- What is malformed is told from a positional argument by its equals sign.
  have read : Token.read token = .malformed := by
    simp [Token.read_eq, Token.ne_help_of_malformed broken, broken.1, broken]
  rw [ofTokens_eq_scan start noListing, scan_append start [] unsettled]
  simp only [scan, read]

/-- Either no token has a property, or there is a first one that does. -/
theorem none_or_first (property : String → Prop) [DecidablePred property] (tokens : List String) :
    (∀ token ∈ tokens, ¬ property token) ∨
      ∃ before token after, tokens = before ++ token :: after ∧ property token ∧
        ∀ earlier ∈ before, ¬ property earlier := by
  -- Searching either goes through all tokens or stops at the first one.
  cases found : tokens.find? fun token => decide (property token) with
  | none =>
    left
    simpa using List.find?_eq_none.mp found
  | some token =>
    right
    obtain ⟨holds, before, after, split, earlier⟩ := List.find?_eq_some_iff_append.mp found
    exact ⟨before, token, after, split, of_decide_eq_true holds, by simpa using earlier⟩

/-- The answers to tokens, by the first of them that settles the request. -/
inductive Verdict (start : Options) (tokens : List String) : Except LaunchError Request → Prop where
  /-- A list of scripts is wished for, wherever that is said. -/
  | listing (wished : "--ls" ∈ tokens) : Verdict start tokens (.ok .listScripts)
  /-- The usage line is wished for before anything is wrong. -/
  | help {before after : List String} (noListing : "--ls" ∉ tokens)
    (split : tokens = before ++ "--help" :: after)
    (unsettled : ∀ token ∈ before, ¬ Token.Settles token) : Verdict start tokens (.ok .help)
  /-- Something is wrong before the usage line is wished for. -/
  | malformed {before after : List String} {token : String} (noListing : "--ls" ∉ tokens)
    (split : tokens = before ++ token :: after) (broken : Token.Malformed token)
    (unsettled : ∀ earlier ∈ before, ¬ Token.Settles earlier) :
    Verdict start tokens (.error (.malformedOption token))
  /-- Nothing settles the request, so it is a launch with all that the tokens give. -/
  | launch (noListing : "--ls" ∉ tokens) (unsettled : ∀ token ∈ tokens, ¬ Token.Settles token) :
    Verdict start tokens (.ok (.launch (start.setAll (given tokens)) (positionals tokens)))

/-- Tokens get the answer that their first settling token calls for. -/
theorem verdict_ofTokens (tokens : List String) :
    Verdict start tokens (ofTokens start tokens) := by
  by_cases wished : "--ls" ∈ tokens
  · rw [ofTokens_of_listing start wished]
    exact .listing wished
  -- Without a wish for a list, the first settling token decides, if there is one.
  rcases none_or_first Token.Settles tokens with
    unsettled | ⟨before, token, after, rfl, settles, earlier⟩
  · rw [ofTokens_of_unsettled start wished unsettled]
    exact .launch wished unsettled
  · rcases settles with rfl | broken
    · rw [ofTokens_of_help start wished earlier]
      exact .help wished rfl earlier
    · rw [ofTokens_of_malformed start wished earlier broken]
      exact .malformed wished rfl broken earlier

end Request

end Launcher
