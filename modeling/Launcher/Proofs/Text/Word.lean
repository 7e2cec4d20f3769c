import Launcher.CommandLine
import Launcher.Text.Word.Split

/-! A line of shell words is split back into the texts that it was made from, and nothing in it
means more to a shell than itself. -/

namespace Launcher

namespace Word

/-- A bare character is no blank and no quote, and means nothing special to a shell. -/
theorem ne_of_isBare {char : Char} (bare : isBare char = true) :
    char ≠ ' ' ∧ char ≠ '\t' ∧ char ≠ '\'' ∧ char ≠ '"' ∧ char ∉ special := by
  -- Each of these characters is known not to be bare.
  have marks : ([' ', '\t', '\'', '"'] ++ special).all (fun mark => !isBare mark) = true := by
    decide
  have other : ∀ mark ∈ [' ', '\t', '\'', '"'] ++ special, char ≠ mark := by
    rintro mark member rfl
    have notBare := List.all_eq_true.mp marks char member
    rw [bare] at notBare
    cases notBare
  exact ⟨other _ (by decide), other _ (by decide), other _ (by decide), other _ (by decide),
    fun member => other char (List.mem_append_right _ member) rfl⟩

/-- A bare character is taken as it is. -/
theorem splitFrom_cons_of_isBare {char : Char} (bare : isBare char = true)
    (word : Option (List Char)) (rest : List Char) :
    splitFrom .bare word (char :: rest) =
      splitFrom .bare (some (word.getD [] ++ [char])) rest := by
  -- A bare character is none of those that separate or quote.
  obtain ⟨space, tab, single, double, plain⟩ := ne_of_isBare bare
  simp [splitFrom, space, tab, single, double, plain]

/-- Bare characters behind a word that was begun belong to it. -/
theorem splitFrom_append_of_all_isBare (text : List Char) (bare : text.all isBare = true)
    (word rest : List Char) :
    splitFrom .bare (some word) (text ++ rest) = splitFrom .bare (some (word ++ text)) rest := by
  -- Each bare character is added to the word so far.
  induction text generalizing word with
  | nil => simp
  | cons char text ih =>
    rw [List.all_cons, Bool.and_eq_true] at bare
    rw [List.cons_append, splitFrom_cons_of_isBare bare.1, ih bare.2]
    simp

/-- What stands in single quotes belongs to the word, up to the quote that ends them; a single
quote among it leaves them for double quotes and comes back. -/
theorem splitFrom_single (text word rest : List Char) :
    splitFrom .single (some word) (text.flatMap quoteChar ++ '\'' :: rest) =
      splitFrom .bare (some (word ++ text)) rest := by
  induction text generalizing word with
  | nil => simp [splitFrom]
  | cons char text ih =>
    rw [List.flatMap_cons, List.append_assoc, quoteChar]
    by_cases quote : char = '\''
    · -- Out of the single quotes, into double quotes for the one character, and back.
      rw [if_pos quote]
      simp [splitFrom, specialInDouble, ih, quote]
    · rw [if_neg quote]
      simp [splitFrom, ih, quote]

/-- A text as one word is split off as this word. -/
theorem splitFrom_quoteChars (text rest : List Char) :
    splitFrom .bare none (quoteChars text ++ rest) = splitFrom .bare (some text) rest := by
  unfold quoteChars
  split
  · -- An empty text is a pair of quotes with nothing between them.
    rename_i empty
    obtain rfl := List.isEmpty_iff.mp empty
    simp [splitFrom]
  · split
    · rename_i nonempty bare
      obtain ⟨char, later, rfl⟩ := List.exists_cons_of_ne_nil (by simpa using nonempty)
      rw [List.all_cons, Bool.and_eq_true] at bare
      -- The first character begins the word, and the others belong to it.
      rw [List.cons_append, splitFrom_cons_of_isBare bare.1,
        splitFrom_append_of_all_isBare later bare.2]
      rfl
    · have quoted := splitFrom_single text [] rest
      simpa [splitFrom] using quoted

/-- A single word is the text as a word. -/
theorem toList_join_singleton (text : String) : (join [text]).toList = quoteChars text.toList := by
  simp [join, quote]

/-- A space stands between two words. -/
theorem toList_join_cons_cons (text next : String) (later : List String) :
    (join (text :: next :: later)).toList =
      quoteChars text.toList ++ ' ' :: (join (next :: later)).toList := by
  -- A space stands between the first text and the others.
  rw [join, List.map_cons, List.map_cons, String.intercalate_cons_cons]
  simp [join, quote]

/-- The words of a line are the texts that it was made from. -/
theorem splitFrom_join (texts : List String) :
    splitFrom .bare none (join texts).toList = some (texts.map String.toList) := by
  -- By recursion on the texts: a quoted text is read up to the space behind it, or up to the end.
  match texts with
  | [] => rfl
  | [text] =>
    have alone := splitFrom_quoteChars text.toList []
    rw [List.append_nil] at alone
    rw [toList_join_singleton, alone]
    rfl
  | text :: next :: later =>
    -- Behind the space, splitting starts anew with the later texts.
    have others := splitFrom_join (next :: later)
    rw [toList_join_cons_cons, splitFrom_quoteChars, splitFrom, others]
    simp

/-- A line of words is split into the texts that it was made from. -/
theorem split?_join (texts : List String) : split? (join texts) = some texts := by
  -- The words are the characters of the texts.
  rw [split?, splitFrom_join]
  simp

/-- The characters of a text as one word, each with how it is quoted there. -/
def markedWord (text : List Char) : List (Quoting × Char) :=
  if text.all isBare then text.map (.bare, ·)
  else text.map fun char => (if char = '\'' then .double else .single, char)

/-- Bare characters are marked as such. -/
theorem marked_append_of_all_isBare (text : List Char) (bare : text.all isBare = true)
    (rest : List Char) :
    marked .bare (text ++ rest) = text.map (.bare, ·) ++ marked .bare rest := by
  -- No bare character is a quote, so each of them is marked as bare.
  induction text with
  | nil => rfl
  | cons char text ih =>
    rw [List.all_cons, Bool.and_eq_true] at bare
    obtain ⟨-, -, single, double, -⟩ := ne_of_isBare bare.1
    simp [marked, single, double, ih bare.2]

/-- What stands in single quotes is marked so, but for single quotes among it, which stand in double
quotes. -/
theorem marked_single (text rest : List Char) :
    marked .single (text.flatMap quoteChar ++ '\'' :: rest) =
      (text.map fun char => (if char = '\'' then .double else .single, char)) ++
        marked .bare rest := by
  -- A single quote is marked as doubly quoted, and anything else as singly quoted.
  induction text with
  | nil => simp [marked]
  | cons char text ih =>
    rw [List.flatMap_cons, List.append_assoc, quoteChar]
    by_cases quote : char = '\''
    · rw [if_pos quote]
      simp [marked, ih, quote]
    · rw [if_neg quote]
      simp [marked, ih, quote]

/-- The characters of a text as one word come before those behind it. -/
theorem marked_quoteChars (text rest : List Char) :
    marked .bare (quoteChars text ++ rest) = markedWord text ++ marked .bare rest := by
  -- The empty text is two quotes; any other stands as it is or between single quotes.
  unfold quoteChars markedWord
  split
  · rename_i empty
    obtain rfl := List.isEmpty_iff.mp empty
    simp [marked]
  · split
    · rename_i bare
      exact marked_append_of_all_isBare text bare rest
    · have quoted := marked_single text rest
      simpa [marked] using quoted

/-- In a word only bare characters go without quotes, and only single quotes stand in double
ones. -/
theorem plain_of_mem_markedWord {text : List Char} {mark : Quoting × Char}
    (member : mark ∈ markedWord text) :
    (mark.1 = .bare → isBare mark.2 = true) ∧ (mark.1 = .double → mark.2 = '\'') := by
  -- A word is marked as bare throughout, or not at all.
  unfold markedWord at member
  split at member
  · rename_i bare
    obtain ⟨char, among, rfl⟩ := List.mem_map.mp member
    exact ⟨fun _ => List.all_eq_true.mp bare char among, nofun⟩
  · obtain ⟨char, among, rfl⟩ := List.mem_map.mp member
    by_cases quote : char = '\'' <;> simp [quote]

/-- No space of a word goes without quotes. -/
theorem count_space_markedWord (text : List Char) : (markedWord text).count (.bare, ' ') = 0 := by
  -- A space is not a bare character.
  refine List.count_eq_zero.mpr fun member => ?_
  have bare := (plain_of_mem_markedWord member).1 rfl
  exact absurd bare (by decide)

/-- The characters of a line of words are those of its words, with a space between two of them. -/
theorem marked_join_cons_cons (text next : String) (later : List String) :
    marked .bare (join (text :: next :: later)).toList =
      markedWord text.toList ++ (.bare, ' ') :: marked .bare (join (next :: later)).toList := by
  -- Behind the first word, nothing is open, so the space is marked as bare.
  rw [toList_join_cons_cons, marked_quoteChars]
  rfl

/-- The characters of a single word are those of the word. -/
theorem marked_join_singleton (text : String) :
    marked .bare (join [text]).toList = markedWord text.toList := by
  -- There is nothing behind the only word.
  have alone := marked_quoteChars text.toList []
  rw [List.append_nil] at alone
  rw [toList_join_singleton, alone]
  exact List.append_nil _

/-- In a line of words only bare characters and spaces go without quotes, and only single quotes
stand in double ones. -/
theorem plain_of_mem_marked_join (texts : List String) {mark : Quoting × Char}
    (member : mark ∈ marked .bare (join texts).toList) :
    (mark.1 = .bare → mark.2 = ' ' ∨ isBare mark.2 = true) ∧
      (mark.1 = .double → mark.2 = '\'') := by
  -- By recursion on the texts: a mark belongs to the first word, to the space behind it, or to the
  -- later words.
  match texts with
  | [] => cases member
  | [text] =>
    rw [marked_join_singleton] at member
    have plain := plain_of_mem_markedWord member
    exact ⟨fun unquoted => .inr (plain.1 unquoted), plain.2⟩
  | text :: next :: later =>
    rw [marked_join_cons_cons, List.mem_append, List.mem_cons] at member
    rcases member with inWord | rfl | behind
    · have plain := plain_of_mem_markedWord inWord
      exact ⟨fun unquoted => .inr (plain.1 unquoted), plain.2⟩
    · -- The mark is the space between the words.
      exact ⟨fun _ => .inl rfl, nofun⟩
    · exact plain_of_mem_marked_join (next :: later) behind

/-- As many spaces go without quotes as it takes to separate the words. -/
theorem count_space_marked_join (text : String) (later : List String) :
    (marked .bare (join (text :: later)).toList).count (.bare, ' ') = later.length := by
  -- No word has a bare space of its own, so only those between the words count.
  induction later generalizing text with
  | nil => rw [marked_join_singleton, count_space_markedWord, List.length_nil]
  | cons next later ih =>
    rw [marked_join_cons_cons, List.count_append, count_space_markedWord, List.count_cons_self, ih,
      List.length_cons, Nat.zero_add]

end Word

/-- A shell splits the line of a command into its parts, and in no other way: all that goes without
quotes are letters, digits, the few marks that mean nothing to a shell, and the one space between
two words; all that stands in double quotes are single quotes. So different commands have different
lines. -/
theorem CommandLine.shellText_splits_into_parts (command : CommandLine) :
    Word.split? command.shellText = some command.parts ∧
    (∀ mark ∈ Word.marked .bare command.shellText.toList,
      (mark.1 = .bare → mark.2 = ' ' ∨ mark.2.isAlphanum = true ∨
        mark.2 ∈ ['-', '_', '.', '/', ':', '=']) ∧
      (mark.1 = .double → mark.2 = '\'')) ∧
    (Word.marked .bare command.shellText.toList).count (.bare, ' ') + 1 = command.parts.length ∧
    ∀ other : CommandLine, command.shellText = other.shellText ↔ command = other := by
  have split : ∀ line : CommandLine, Word.split? line.shellText = some line.parts :=
    fun line => Word.split?_join line.parts
  refine ⟨split command, fun mark member => ?_, ?_, fun other => ⟨fun same => ?_, congrArg _⟩⟩
  · obtain ⟨bare, double⟩ := Word.plain_of_mem_marked_join command.parts member
    refine ⟨fun unquoted => (bare unquoted).imp_right fun plain => ?_, double⟩
    simpa [Word.isBare] using plain
  · rw [shellText, parts, Word.count_space_marked_join, List.length_cons]
  · -- Equal lines are split into the same parts.
    apply parts_inj.mp
    rw [← Option.some_inj, ← split, ← split, same]

/-- A part with a blank, a quote and a dollar sign in it, an empty one, and a tilde. -/
example :
    (CommandLine.mk "java" ["it's $5", "", "~", "a=b"]).shellText =
      "java 'it'\"'\"'s $5' '' '~' a=b" := by
  decide +kernel

end Launcher
