import Launcher.Proofs.Request.Verdict

/-! Tokens are sorted into positional arguments and options without loss, and it does not matter how
the ones are mixed with the others. -/

namespace Launcher

/-- A list goes through two others, each in its own order, and holds nothing else. -/
inductive Interleaves {α : Type} : List α → List α → List α → Prop where
  /-- Two empty lists leave nothing to go through. -/
  | nil : Interleaves [] [] []
  /-- The next item is one of the first list. -/
  | left {item : α} {first second whole : List α} (rest : Interleaves first second whole) :
    Interleaves (item :: first) second (item :: whole)
  /-- The next item is one of the second list. -/
  | right {item : α} {first second whole : List α} (rest : Interleaves first second whole) :
    Interleaves first (item :: second) (item :: whole)

namespace Interleaves

variable {α : Type} {first second whole : List α}

/-- An item of the whole is one of either list. -/
theorem mem_iff (mixed : Interleaves first second whole) {item : α} :
    item ∈ whole ↔ item ∈ first ∨ item ∈ second := by
  -- Every item of the whole was taken from one of the two lists.
  induction mixed with
  | nil => simp
  | left rest ih => simp [ih, or_assoc]
  | right rest ih => simp [ih, or_left_comm]

/-- The whole has as many items as both lists together. -/
theorem length_eq (mixed : Interleaves first second whole) :
    first.length + second.length = whole.length := by
  -- Every item of the whole shortens just one of the two lists by one.
  induction mixed with
  | nil => rfl
  | left rest ih =>
    rw [List.length_cons, List.length_cons, ← ih]
    omega
  | right rest ih =>
    rw [List.length_cons, List.length_cons, ← ih]
    omega

/-- A list goes through its items with a property and through those without it. -/
theorem of_filter (property : α → Prop) [DecidablePred property] (items : List α) :
    Interleaves (items.filter fun item => ¬ property item) (items.filter fun item => property item)
      items := by
  -- Each item goes to the list of those that have the property or to the other one.
  induction items with
  | nil => exact .nil
  | cons item rest ih =>
    by_cases holds : property item
    · simpa [holds] using right ih
    · simpa [holds] using left ih

/-- Lists that a property tells apart are found again in the whole. -/
theorem filter_eq (mixed : Interleaves first second whole) {property : α → Prop}
    [DecidablePred property] (without : ∀ item ∈ first, ¬ property item)
    (having : ∀ item ∈ second, property item) :
    (whole.filter fun item => ¬ property item) = first ∧
      (whole.filter fun item => property item) = second := by
  induction mixed with
  | nil => exact ⟨rfl, rfl⟩
  | left rest ih =>
    -- The item belongs to the first list, and the second one is found behind it.
    obtain ⟨lacks, others⟩ := List.forall_mem_cons.mp without
    obtain ⟨front, back⟩ := ih others having
    rw [List.filter_cons_of_pos (by simpa using lacks), front,
      List.filter_cons_of_neg (by simpa using lacks), back]
    exact ⟨rfl, rfl⟩
  | right rest ih =>
    -- The same with the two lists in each other's place.
    obtain ⟨has, others⟩ := List.forall_mem_cons.mp having
    obtain ⟨front, back⟩ := ih without others
    rw [List.filter_cons_of_neg (by simpa using has), front,
      List.filter_cons_of_pos (by simpa using has), back]
    exact ⟨rfl, rfl⟩

end Interleaves

namespace Request

/-- The tokens with an equals sign, in order. -/
def optionTokens (tokens : List String) : List String :=
  tokens.filter fun token => '=' ∈ token.toList

/-- Each token is a positional argument or an option, and both keep their order. -/
theorem interleaves_positionals_optionTokens (tokens : List String) :
    Interleaves (positionals tokens) (optionTokens tokens) tokens :=
  Interleaves.of_filter (fun token : String => '=' ∈ token.toList) tokens

/-- However positional arguments and options are mixed, they are sorted in the same way. -/
theorem sorted_of_interleaves {tokens other : List String}
    (mixed : Interleaves (positionals tokens) (optionTokens tokens) other) :
    positionals other = positionals tokens ∧ optionTokens other = optionTokens tokens := by
  -- The equals sign tells them apart in whatever they are mixed to.
  have without : ∀ token ∈ positionals tokens, ¬ '=' ∈ token.toList := by
    intro token member
    simpa using (List.mem_filter.mp member).2
  have having : ∀ token ∈ optionTokens tokens, '=' ∈ token.toList := by
    intro token member
    simpa using (List.mem_filter.mp member).2
  exact mixed.filter_eq without having

/-- The first token with a property is found behind those without it. -/
theorem find?_of_split {property : String → Prop} [DecidablePred property]
    {before after : List String} {token : String} (holds : property token)
    (earlier : ∀ other ∈ before, ¬ property other) :
    ((before ++ token :: after).find? fun other => property other) = some token := by
  -- The search passes by everything before the token and ends at it.
  have none : (before.find? fun other => property other) = none := by simpa using earlier
  rw [List.find?_append, none, List.find?_cons_of_pos (by simpa using holds)]
  rfl

/-- An option that settles nothing is its key and its value, around the only equals sign. -/
theorem key_value_of_mem_optionTokens {tokens : List String} {token : String}
    (member : token ∈ optionTokens tokens) (sound : ¬ Token.Malformed token) :
    token = Token.key token ++ "=" ++ Token.value token ∧ Token.key token ≠ "" ∧
      '=' ∉ (Token.key token).toList ∧ '=' ∉ (Token.value token).toList := by
  -- A token of this list holds a `=`. That it is not malformed gives the rest: there is a key
  -- before the first `=` and no other `=` behind it.
  have given : '=' ∈ token.toList := by simpa using (List.mem_filter.mp member).2
  obtain ⟨named, single⟩ := not_or.mp ((Token.malformed_iff given).not.mp sound)
  exact ⟨Token.eq_key_append_value given, named, Token.equals_not_mem_key token, single⟩

variable (start : Options) (tokens : List String)

/-- A wish for a list of scripts decides wherever it stands, and else the first token that is a wish
for the usage line or malformed; without any, every token is collected. -/
theorem ofTokens_eq_of_first :
    ofTokens start tokens =
      if "--ls" ∈ tokens then .ok .listScripts
      else
        match tokens.find? fun token => Token.Settles token with
        | some token => if token = "--help" then .ok .help else .error (.malformedOption token)
        | none => .ok (.launch (start.setAll (given tokens)) (positionals tokens)) := by
  -- Each verdict says which tokens were looked at and what the deciding one is.
  have verdict := verdict_ofTokens start tokens
  generalize ofTokens start tokens = answer at verdict ⊢
  cases verdict with
  | listing wished => rw [if_pos wished]
  | help noListing split unsettled =>
    have settles : Token.Settles "--help" := .inl rfl
    rw [if_neg noListing]
    simp only [split, find?_of_split settles unsettled, if_true]
  | malformed noListing split broken unsettled =>
    have settles : Token.Settles _ := .inr broken
    rw [if_neg noListing]
    simp only [split, find?_of_split settles unsettled, if_neg (Token.ne_help_of_malformed broken)]
  | launch noListing unsettled =>
    have none : (tokens.find? fun token => Token.Settles token) = none := by simpa using unsettled
    rw [if_neg noListing]
    simp only [none]

/-- Only a wish for a list of scripts is answered by one. -/
theorem ofTokens_eq_listScripts_iff :
    ofTokens start tokens = .ok .listScripts ↔ "--ls" ∈ tokens := by
  refine ⟨fun answered => ?_, ofTokens_of_listing start⟩
  -- No other verdict is a list of scripts.
  have verdict := verdict_ofTokens start tokens
  rw [answered] at verdict
  cases verdict with
  | listing wished => exact wished

/-- The tokens of a launch may be mixed in any other way, as long as the positional arguments and
the options keep their order each. -/
theorem ofTokens_of_interleaves {tokens other : List String}
    (unsettled : ∀ token ∈ tokens, ¬ Token.Settles token)
    (mixed : Interleaves (positionals tokens) (optionTokens tokens) other) :
    ofTokens start other = ofTokens start tokens := by
  -- The same tokens are there, so a list is wished for in both or in neither, and none settles.
  have same (token : String) : token ∈ other ↔ token ∈ tokens := by
    rw [mixed.mem_iff, (interleaves_positionals_optionTokens tokens).mem_iff]
  have otherUnsettled : ∀ token ∈ other, ¬ Token.Settles token :=
    fun token member => unsettled token ((same token).mp member)
  by_cases wished : "--ls" ∈ tokens
  · rw [ofTokens_of_listing start wished, ofTokens_of_listing start ((same _).mpr wished)]
  · have otherUnwished : "--ls" ∉ other := fun member => wished ((same _).mp member)
    obtain ⟨arguments, options⟩ := sorted_of_interleaves mixed
    -- What is given is told by the tokens with an equals sign.
    have pairs : given other = given tokens :=
      congrArg (List.map fun token => (Token.key token, Token.value token)) options
    rw [ofTokens_of_unsettled start wished unsettled,
      ofTokens_of_unsettled start otherUnwished otherUnsettled, arguments, pairs]

/-- A list of scripts is what tokens ask for exactly if one of them wishes for it. Otherwise the
first token that wishes for the usage line or is malformed decides, by what it is. If there is none,
the tokens without an equals sign are the positional arguments and the others are set as options, in
order, each split at its only equals sign. So no token is lost or counted twice, and any other way
to mix the positional arguments with the options asks for the same. -/
theorem ofTokens_sorts_tokens :
    (ofTokens start tokens = .ok .listScripts ↔ "--ls" ∈ tokens) ∧
    (ofTokens start tokens =
      if "--ls" ∈ tokens then .ok .listScripts
      else
        match tokens.find? fun token => Token.Settles token with
        | some token => if token = "--help" then .ok .help else .error (.malformedOption token)
        | none =>
          let pairs := (optionTokens tokens).map fun token => (Token.key token, Token.value token)
          .ok (.launch (start.setAll pairs) (positionals tokens))) ∧
    ((∀ token ∈ tokens, ¬ Token.Settles token) →
      (∀ token ∈ optionTokens tokens,
        token = Token.key token ++ "=" ++ Token.value token ∧ Token.key token ≠ "" ∧
          '=' ∉ (Token.key token).toList ∧ '=' ∉ (Token.value token).toList) ∧
      Interleaves (positionals tokens) (optionTokens tokens) tokens ∧
      (positionals tokens).length + (optionTokens tokens).length = tokens.length ∧
      ∀ other, Interleaves (positionals tokens) (optionTokens tokens) other →
        ofTokens start other = ofTokens start tokens) := by
  -- When nothing settles the request early, each token is a positional or a pair, and only the
  -- order within the positionals and within the pairs matters.
  refine ⟨ofTokens_eq_listScripts_iff start tokens, ofTokens_eq_of_first start tokens,
    fun unsettled => ⟨fun token member => ?_, ?_, ?_, fun other mixed => ?_⟩⟩
  · have among : token ∈ tokens := (List.mem_filter.mp member).1
    exact key_value_of_mem_optionTokens member fun broken => unsettled token among (.inr broken)
  · exact interleaves_positionals_optionTokens tokens
  · exact (interleaves_positionals_optionTokens tokens).length_eq
  · exact ofTokens_of_interleaves start unsettled mixed

/-- An option without a value and a positional argument with hyphens, mixed in two ways. -/
example :
    ofTokens .empty ["GenMS", "gcspy=", "--verbose"] =
      ofTokens .empty ["gcspy=", "GenMS", "--verbose"] ∧
    ofTokens .empty ["GenMS", "gcspy=", "--verbose"] =
      .ok (.launch (.ofList [("gcspy", "")]) ["GenMS", "--verbose"]) := by
  decide

end Request

end Launcher
