import Launcher.Text.Literal.Reader

/-! A bracketed list of literals shows printable characters only, and is read back as the texts that
it was made from. -/

namespace Launcher

/-- A printable character is none of the control characters. -/
theorem bounds_of_isPrintable {char : Char} (printable : isPrintable char = true) :
    0x20 ≤ char.toNat ∧ (char.toNat < 0x7F ∨ 0xA0 < char.toNat) := by
  unfold isPrintable at printable
  -- Each bound is a test that comes before the table is looked at.
  by_cases control : char.toNat < 0x20
  · simp [control] at printable
  by_cases plain : char.toNat < 0x7F
  · omega
  by_cases further : char.toNat ≤ 0xA0
  · simp [control, plain, further] at printable
  · omega

namespace Literal

/-- The hexadecimal digits read as their values. -/
theorem valueOf?_digitChar : ∀ digit < 16,
    Hexadecimal.valueOf? (Nat.digitChar digit) = some digit ∧ Nat.digitChar digit ≠ '}' := by
  -- There are only sixteen of them.
  decide

/-- Another digit of a code is added to those before it. -/
theorem readBody_code_digit {digit : Nat} (small : digit < 16) (digits value : Nat)
    (rest : List Char) :
    readBody (.code digits value) (Nat.digitChar digit :: rest) =
      readBody (.code (digits + 1) (value * 16 + digit)) rest := by
  -- A digit is not the closing brace, so it is read by its value.
  obtain ⟨read, within⟩ := valueOf?_digitChar digit small
  simp [readBody, read, within]

/-- The digits of a code are read as the code. -/
theorem readBody_code_toDigits (code : Nat) (rest : List Char) :
    readBody (.code 0 0) (Nat.toDigits 16 code ++ rest) =
      readBody (.code (Nat.toDigits 16 code).length code) rest := by
  -- The last digit is read behind those of the code without it.
  induction code using Nat.strongRecOn generalizing rest with
  | ind code ih =>
    by_cases single : code < 16
    · -- Nothing was read before a single digit.
      rw [Nat.toDigits_of_lt_base single]
      have read := readBody_code_digit single 0 0 rest
      simpa using read
    · have whole : code / 16 * 16 + code % 16 = code := by omega
      rw [Nat.toDigits_of_base_le (by decide) (by omega), List.append_assoc,
        ih (code / 16) (by omega), List.singleton_append,
        readBody_code_digit (Nat.mod_lt code (by decide)), whole, List.length_append,
        List.length_singleton]

/-- The code of a character has one to six digits. -/
theorem length_toDigits_toNat (char : Char) :
    0 < (Nat.toDigits 16 char.toNat).length ∧ (Nat.toDigits 16 char.toNat).length ≤ 6 := by
  have valid : char.toNat < 0xD800 ∨ 0xDFFF < char.toNat ∧ char.toNat < 0x110000 := char.valid
  -- The last code there is fits in six digits.
  refine ⟨Nat.length_toDigits_pos, ?_⟩
  rw [Nat.length_toDigits_le_iff (by decide) (by decide)]
  omega

/-- The spelling of a character is read as the character, whatever follows. -/
theorem readBody_escape (char : Char) (rest : List Char) :
    readBody .between (escape char ++ rest) =
      (readBody .between rest).map fun (text, after) => (char :: text, after) := by
  unfold escape
  split
  case h_7 quote backslash _ _ _ _ =>
    split
    · have notQuote : char ≠ '"' := quote
      have notBackslash : char ≠ '\\' := backslash
      simp [readBody, notQuote, notBackslash]
    · -- Any other character is spelled by its code.
      obtain ⟨some, few⟩ := length_toDigits_toNat char
      have valid : char.toNat.isValidChar := char.valid
      have code := readBody_code_toDigits char.toNat ('}' :: rest)
      simpa [readBody, some, few, valid] using code
  -- The six characters with a letter of their own are read by that letter.
  all_goals rfl

/-- A literal is read as its text, up to its closing quote. -/
theorem readBody_between (text rest : List Char) :
    readBody .between (text.flatMap escape ++ '"' :: rest) = some (text, rest) := by
  -- Each character is read back in front of the rest of the body.
  induction text with
  | nil => rfl
  | cons char text ih =>
    rw [List.flatMap_cons, List.append_assoc, readBody_escape, ih]
    rfl

/-- The characters of literals with commas between them. -/
def items (texts : List String) : List Char :=
  (String.intercalate ", " (texts.map quote)).toList

/-- A single literal has no comma behind it. -/
theorem items_singleton (text : String) : items [text] = quoteChars text.toList := by
  -- A single text has no comma around it.
  simp [items, quote]

/-- A comma and a space stand between two literals. -/
theorem items_cons_cons (text next : String) (later : List String) :
    items (text :: next :: later) =
      quoteChars text.toList ++ ',' :: ' ' :: items (next :: later) := by
  -- A comma stands between the first text and the others.
  rw [items, List.map_cons, List.map_cons, String.intercalate_cons_cons]
  simp [items, quote]

/-- A list has its brackets around the literals. -/
theorem toList_list (texts : List String) :
    (list texts).toList = '[' :: (items texts ++ [']']) := by
  simp [list, items]

/-- Literals with commas between them are read as their texts, up to the closing bracket. -/
theorem readItems_items (text : String) (later : List String) {fuel : Nat}
    (enough : later.length < fuel) (after : List Char) :
    readItems fuel (items (text :: later) ++ ']' :: after) = some (text :: later, after) := by
  -- Each step reads one literal and leaves as many steps as there are literals behind it.
  induction later generalizing text fuel with
  | nil =>
    obtain ⟨fuel, rfl⟩ := Nat.exists_eq_succ_of_ne_zero (Nat.ne_of_gt enough)
    rw [items_singleton, quoteChars, List.cons_append, List.append_assoc, List.singleton_append,
      readItems, readBody_between]
    simp
  | cons next later ih =>
    obtain ⟨fuel, rfl⟩ := Nat.exists_eq_succ_of_ne_zero (Nat.ne_zero_of_lt enough)
    have left : later.length < fuel := by simpa using enough
    -- Behind the comma the other literals are read with the steps that are left.
    have others := ih next left
    rw [items_cons_cons, quoteChars]
    simp only [List.cons_append, List.append_assoc, List.nil_append]
    rw [readItems, readBody_between]
    simp [others]

/-- There are at least as many characters as literals, and a quote comes first. -/
theorem exists_items_eq_cons (text : String) (later : List String) :
    ∃ rest, items (text :: later) = '"' :: rest ∧ later.length < rest.length := by
  -- Each text has two quotes at least, so there are more characters than texts.
  induction later generalizing text with
  | nil => exact ⟨_, items_singleton text, by simp⟩
  | cons next later ih =>
    obtain ⟨rest, others, longer⟩ := ih next
    rw [items_cons_cons, quoteChars, List.cons_append, others]
    refine ⟨_, rfl, ?_⟩
    simp only [List.length_append, List.length_cons]
    omega

/-- A bracketed list of literals is read as the texts that it was made from. -/
theorem readList?_list (texts : List String) : readList? (list texts) = some texts := by
  rw [readList?, toList_list]
  cases texts with
  | nil => rfl
  | cons text later =>
    obtain ⟨rest, spelled, longer⟩ := exists_items_eq_cons text later
    -- Every literal takes a character at least, and the steps are counted by characters.
    have enough : later.length < ('"' :: (rest ++ [']'])).length := by
      simp only [List.length_append, List.length_cons]
      omega
    have read := readItems_items text later enough []
    rw [spelled, List.cons_append] at read ⊢
    -- Behind the bracket there is a quote, so the list is not the empty one.
    split
    case h_1 none => simp at none
    case h_2 inside _ opened =>
      obtain rfl := (List.cons.inj opened).2
      rw [read]
    case h_3 _ missing => exact absurd rfl (missing _)

/-- The digits of a code are printable. -/
theorem isPrintable_of_mem_toDigits {code : Nat} {char : Char}
    (member : char ∈ Nat.toDigits 16 code) : isPrintable char = true := by
  have digits : ∀ digit < 16, isPrintable (Nat.digitChar digit) = true := by decide
  induction code using Nat.strongRecOn with
  | ind code ih =>
    by_cases single : code < 16
    · rw [Nat.toDigits_of_lt_base single, List.mem_singleton] at member
      exact member ▸ digits code single
    · -- The last digit stands behind those of the code without it.
      rw [Nat.toDigits_of_base_le (by decide) (by omega), List.mem_append,
        List.mem_singleton] at member
      rcases member with before | rfl
      · exact ih (code / 16) (by omega) before
      · exact digits (code % 16) (Nat.mod_lt code (by decide))

/-- The spelling of a character is printable. -/
theorem isPrintable_of_mem_escape {char part : Char} (member : part ∈ escape char) :
    isPrintable part = true := by
  have marks : ∀ mark ∈ ['"', '\\', '0', 't', 'n', 'r', 'u', '{', '}'], isPrintable mark = true :=
    List.all_eq_true.mp rfl
  unfold escape at member
  split at member
  case h_7 =>
    split at member
    · rename_i printable
      exact List.mem_singleton.mp member ▸ printable
    · simp only [List.mem_append, List.mem_cons, List.not_mem_nil, or_false] at member
      -- The code stands between a backslash, a letter and a brace, and another brace.
      rcases member with (mark | digit) | mark
      · exact marks part (by rcases mark with rfl | rfl | rfl <;> decide)
      · exact isPrintable_of_mem_toDigits digit
      · exact marks part (by rcases mark with rfl; decide)
  -- The six characters with a letter of their own are a backslash and that letter.
  all_goals
    simp only [List.mem_cons, List.not_mem_nil, or_false] at member
    exact marks part (by rcases member with rfl | rfl <;> decide)

/-- A bracketed list of literals is printable. -/
theorem isPrintable_of_mem_list {texts : List String} {part : Char}
    (member : part ∈ (list texts).toList) : isPrintable part = true := by
  have marks : ∀ mark ∈ ['[', ']', '"', ',', ' '], isPrintable mark = true :=
    List.all_eq_true.mp rfl
  -- A literal is made of quotes and escaped characters.
  have literal {text : List Char} (inside : part ∈ quoteChars text) : isPrintable part = true := by
    simp only [quoteChars, List.mem_cons, List.mem_append, List.mem_flatMap, List.not_mem_nil,
      or_false] at inside
    rcases inside with rfl | ⟨char, -, spelled⟩ | rfl
    · exact marks '"' (by decide)
    · exact isPrintable_of_mem_escape spelled
    · exact marks '"' (by decide)
  -- Between the brackets there are literals, commas and spaces.
  have inner {texts : List String} (inside : part ∈ items texts) : isPrintable part = true := by
    induction texts with
    | nil => cases inside
    | cons text later ih =>
      cases later with
      | nil => exact literal (items_singleton text ▸ inside)
      | cons next later =>
        rw [items_cons_cons, List.mem_append, List.mem_cons, List.mem_cons] at inside
        rcases inside with first | rfl | rfl | others
        · exact literal first
        · exact marks ',' (by decide)
        · exact marks ' ' (by decide)
        · exact ih others
  rw [toList_list, List.mem_cons, List.mem_append, List.mem_singleton] at member
  rcases member with rfl | inside | rfl
  · exact marks '[' (by decide)
  · exact inner inside
  · exact marks ']' (by decide)

end Literal

end Launcher
