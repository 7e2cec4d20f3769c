import Launcher.Proofs.Options.Lookup
import Launcher.Request
import Mathlib.Data.List.TakeWhile

/-! What a single token is, and what a scan over tokens collects. -/

namespace Launcher

namespace Token

/-- A token with an equals sign that has no key before it or another equals sign behind it. -/
def Malformed (token : String) : Prop :=
  '=' ∈ token.toList ∧ (token.toList.head? = some '=' ∨ 2 ≤ token.toList.count '=')

instance (token : String) : Decidable (Malformed token) :=
  inferInstanceAs (Decidable (_ ∧ (_ ∨ _)))

/-- A token that settles a request wherever it is reached: a wish for the usage line, or one that is
malformed. -/
def Settles (token : String) : Prop := token = "--help" ∨ Malformed token

instance (token : String) : Decidable (Settles token) := inferInstanceAs (Decidable (_ ∨ _))

/-- What stands before the first equals sign of a token. -/
def key (token : String) : String := String.ofList (token.toList.takeWhile (· ≠ '='))

/-- What stands behind the first equals sign of a token. -/
def value (token : String) : String :=
  String.ofList ((token.toList.dropWhile (· ≠ '=')).drop 1)

/-- A text with an equals sign is a part without one, the sign, and the rest. -/
theorem takeWhile_append_equals {text : List Char} (given : '=' ∈ text) :
    text = text.takeWhile (· ≠ '=') ++ '=' :: (text.dropWhile (· ≠ '=')).drop 1 := by
  induction text with
  | nil => simp at given
  | cons char rest ih =>
    -- The first sign is either here or in the rest.
    by_cases here : char = '='
    · simp [here]
    · have later : '=' ∈ rest := by simpa [Ne.symm here] using given
      simpa [here] using ih later

/-- A token with an equals sign is its key and its value around the sign. -/
theorem eq_key_append_value {token : String} (given : '=' ∈ token.toList) :
    token = key token ++ "=" ++ value token := by
  -- A token is split at its first `=`.
  rw [← String.toList_inj]
  simpa [key, value] using takeWhile_append_equals given

/-- The key before the first equals sign has none itself. -/
theorem equals_not_mem_key (token : String) : '=' ∉ (key token).toList := by
  intro member
  rw [key, String.toList_ofList] at member
  -- What is taken up to the first sign holds only what differs from it.
  have before := List.all_eq_true.mp (List.all_takeWhile (p := (· ≠ '='))) '=' member
  simp at before

/-- Splitting finds the key and the value exactly where there is an equals sign. -/
theorem splitAtEquals?_eq (token : String) :
    splitAtEquals? token.toList =
      if '=' ∈ token.toList then some ((key token).toList, (value token).toList) else none := by
  by_cases given : '=' ∈ token.toList
  · -- Two ways to split the token begin alike, so they end alike.
    have found : token.toList.dropWhile (· ≠ '=') = '=' :: (value token).toList := by
      have whole := takeWhile_append_equals given
      have parts := List.takeWhile_append_dropWhile (p := (· ≠ '=')) (l := token.toList)
      rw [value, String.toList_ofList]
      exact List.append_cancel_left (parts.trans whole)
    rw [splitAtEquals?, found, if_pos given, key, String.toList_ofList]
  · -- Without a sign, dropping what differs from it drops everything.
    have passed : token.toList.dropWhile (· ≠ '=') = [] := by
      refine List.dropWhile_eq_nil_iff.mpr fun char member => ?_
      have different : char ≠ '=' := fun same => given (same ▸ member)
      simpa using different
    rw [splitAtEquals?, passed, if_neg given]

/-- A token with an equals sign is malformed if its key is empty or its value has another sign. -/
theorem malformed_iff {token : String} (given : '=' ∈ token.toList) :
    Malformed token ↔ key token = "" ∨ '=' ∈ (value token).toList := by
  have chars : token.toList = (key token).toList ++ '=' :: (value token).toList := by
    have whole := congrArg String.toList (eq_key_append_value given)
    simpa using whole
  -- The key has no equals sign, so the first one found is the one behind the key.
  have none : (key token).toList.count '=' = 0 := List.count_eq_zero.mpr (equals_not_mem_key token)
  have again : 2 ≤ token.toList.count '=' ↔ '=' ∈ (value token).toList := by
    rw [chars, List.count_append, none, List.count_cons_self, ← List.count_pos_iff]
    omega
  -- The token starts with the sign exactly when nothing stands before it.
  have first : token.toList.head? = some '=' ↔ key token = "" := by
    rw [chars]
    cases letters : (key token).toList with
    | nil => simpa using String.toList_eq_nil_iff.mp letters
    | cons char rest =>
      have different : char ≠ '=' := by
        intro same
        exact equals_not_mem_key token (by simp [letters, same])
      have filled : key token ≠ "" := by
        intro empty
        simp [empty] at letters
      simp [different, filled]
  rw [Malformed, again, first]
  exact and_iff_right given

/-- What a token is by its spelling. -/
theorem read_eq (token : String) :
    read token =
      if token = "--help" then .help
      else if '=' ∉ token.toList then .positional
      else if Malformed token then .malformed
      else .option (key token) (value token) := by
  rw [read, helpText]
  by_cases help : token = "--help"
  · rw [if_pos help, if_pos help]
  rw [if_neg help, if_neg help, splitAtEquals?_eq]
  -- From here on, the equals sign decides, and then what stands around it.
  by_cases given : '=' ∈ token.toList
  · rw [if_pos given, if_neg (not_not_intro given)]
    simp only [malformed_iff given, String.ofList_toList]
    by_cases broken : key token = "" ∨ '=' ∈ (value token).toList
    · rw [if_pos broken, if_pos (by simpa using broken)]
    · rw [if_neg broken, if_neg (by simpa using broken)]
  · rw [if_neg given, if_pos given]

end Token

namespace Request

/-- The tokens without an equals sign, in order. -/
def positionals (tokens : List String) : List String :=
  tokens.filter fun token => '=' ∉ token.toList

/-- The keys and values of the tokens with an equals sign, in order. -/
def given (tokens : List String) : List (String × String) :=
  (tokens.filter fun token => '=' ∈ token.toList).map fun token =>
    (Token.key token, Token.value token)

/-- No token settles a request exactly if the usage line is not wished for and none is malformed. -/
theorem unsettled_iff (tokens : List String) :
    (∀ token ∈ tokens, ¬ Token.Settles token) ↔
      "--help" ∉ tokens ∧ ∀ token ∈ tokens, ¬ Token.Malformed token := by
  -- Two kinds of token settle a request: the one that asks for help, and malformed ones.
  constructor
  · intro unsettled
    exact ⟨fun member => unsettled "--help" member (.inl rfl),
      fun token member broken => unsettled token member (.inr broken)⟩
  · rintro ⟨noHelp, wellFormed⟩ token member settled
    rcases settled with rfl | broken
    · exact noHelp member
    · exact wellFormed token member broken

/-- Tokens that settle nothing are collected, and the scan goes on behind them. -/
theorem scan_append {before : List String} (options : Options) (found : List String)
    (unsettled : ∀ token ∈ before, ¬ Token.Settles token) (rest : List String) :
    scan options found (before ++ rest) =
      scan (options.setAll (given before)) (found ++ positionals before) rest := by
  -- The store and the positionals so far are what the tokens before the scan's place left.
  induction before generalizing options found with
  | nil => simp [given, positionals, Options.setAll]
  | cons token later ih =>
    obtain ⟨notHelp, sound⟩ : token ≠ "--help" ∧ ¬ Token.Malformed token :=
      not_or.mp (unsettled token (by simp))
    have laterUnsettled : ∀ other ∈ later, ¬ Token.Settles other :=
      fun other member => unsettled other (by simp [member])
    by_cases equals : '=' ∈ token.toList
    · -- An option is set at once, as the first of the pairs that remain.
      have read : Token.read token = .option (Token.key token) (Token.value token) := by
        simp [Token.read_eq, notHelp, equals, sound]
      simp only [List.cons_append, scan, read]
      rw [ih _ _ laterUnsettled]
      simp [given, positionals, equals, Options.setAll]
    · -- Anything else is kept behind the positionals so far.
      have read : Token.read token = .positional := by simp [Token.read_eq, notHelp, equals]
      simp only [List.cons_append, scan, read]
      rw [ih _ _ laterUnsettled]
      simp [given, positionals, equals]

/-- Without a wish for the usage line and without a malformed token, a scan collects every token. -/
theorem scan_eq_launch {tokens : List String} (options : Options) (found : List String)
    (noHelp : "--help" ∉ tokens) (wellFormed : ∀ token ∈ tokens, ¬ Token.Malformed token) :
    scan options found tokens =
      .ok (.launch (options.setAll (given tokens)) (found ++ positionals tokens)) := by
  have unsettled := (unsettled_iff tokens).mpr ⟨noHelp, wellFormed⟩
  -- The scan goes through all tokens, and nothing is left behind them.
  have through := scan_append options found unsettled []
  rw [List.append_nil] at through
  rw [through, scan]

end Request

end Launcher
