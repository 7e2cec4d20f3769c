import Launcher.Proofs.Text.Decimal
import Launcher.RepeatCount
import Mathlib.Data.List.TakeWhile

/-! Which texts denote a number of repetitions, and which number each of them denotes. -/

namespace Launcher

/-- White space in front of a text that starts without any is what gets dropped. -/
theorem dropWhile_isBlank_append {before core : List Char}
    (blank : ∀ char ∈ before, isBlank char) (inked : ∀ char ∈ core, ¬ isBlank char) :
    (before ++ core).dropWhile isBlank = core := by
  rw [List.dropWhile_append_of_pos blank]
  -- Dropping goes through the white space and stops at the first other character.
  cases core with
  | nil => rfl
  | cons char rest => exact List.dropWhile_cons_of_neg (inked char (by simp))

/-- White space around a text without any is what trimming takes away. -/
theorem trimBlank_surrounded {before core after : List Char}
    (blankBefore : ∀ char ∈ before, isBlank char) (blankAfter : ∀ char ∈ after, isBlank char)
    (inked : ∀ char ∈ core, ¬ isBlank char) (filled : core ≠ []) :
    trimBlank (before ++ core ++ after) = core := by
  -- The white space behind the text comes first when it is read from its end.
  have front : (before ++ core ++ after).dropWhile isBlank = core ++ after := by
    rw [List.append_assoc, List.dropWhile_append_of_pos blankBefore]
    obtain ⟨char, rest, rfl⟩ := List.exists_cons_of_ne_nil filled
    exact List.dropWhile_cons_of_neg (inked char (by simp))
  have back : (core ++ after).reverse.dropWhile isBlank = core.reverse := by
    rw [List.reverse_append]
    exact dropWhile_isBlank_append (by simpa using blankAfter) (by simpa using inked)
  rw [trimBlank, front, back, List.reverse_reverse]

/-- A text is what trimming leaves of it, with white space around. -/
theorem trimBlank_split (text : List Char) :
    ∃ before after, text = before ++ trimBlank text ++ after ∧
      (∀ char ∈ before, isBlank char) ∧ (∀ char ∈ after, isBlank char) := by
  -- The white space on each side is what trimming drops there.
  have taken : ∀ part : List Char, ∀ char ∈ part.takeWhile isBlank, isBlank char :=
    fun part => List.all_eq_true.mp List.all_takeWhile
  refine ⟨text.takeWhile isBlank, ((text.dropWhile isBlank).reverse.takeWhile isBlank).reverse,
    ?_, taken text, ?_⟩
  · rw [trimBlank, List.append_assoc, ← List.reverse_append, List.takeWhile_append_dropWhile,
      List.reverse_reverse, List.takeWhile_append_dropWhile]
  · intro char member
    exact taken _ char (List.mem_reverse.mp member)

/-- Digits are no white space. -/
theorem isBlank_of_isDigit {char : Char} (digit : char.isDigit) : ¬ isBlank char := by
  -- The codes of digits lie between those of the kinds of white space.
  have code : 48 ≤ char.toNat ∧ char.toNat ≤ 57 := Char.isDigit_iff_toNat.mp digit
  simp only [isBlank, Bool.or_eq_true, Bool.and_eq_true, decide_eq_true_eq, beq_iff_eq]
  omega

namespace RepeatCount

/-- A text denotes a count: the decimal digits of a number in range behind an optional plus sign,
with white space around them. -/
def Denotes (text : String) (count : Nat) : Prop :=
  ∃ before sign digits after : List Char,
    text.toList = before ++ (sign ++ digits) ++ after ∧
    (∀ char ∈ before, isBlank char) ∧ (∀ char ∈ after, isBlank char) ∧
    (sign = [] ∨ sign = ['+']) ∧ digits ≠ [] ∧ (∀ char ∈ digits, char.isDigit) ∧
    count = Nat.ofDigitChars 10 digits 0 ∧ 1 ≤ count ∧ count ≤ 4294967295

/-- A text is its first plus sign, if it starts with one, and the rest. -/
theorem withoutPlus_split (text : List Char) :
    ∃ sign, text = sign ++ withoutPlus text ∧ (sign = [] ∨ sign = ['+']) := by
  unfold withoutPlus
  split
  · -- There was a plus.
    exact ⟨['+'], rfl, .inr rfl⟩
  · -- There was none.
    exact ⟨[], rfl, .inl rfl⟩

/-- Digits behind an optional plus sign are what is left without the sign. -/
theorem withoutPlus_append {sign digits : List Char} (optional : sign = [] ∨ sign = ['+'])
    (filled : digits ≠ []) (decimal : ∀ char ∈ digits, char.isDigit) :
    withoutPlus (sign ++ digits) = digits := by
  rcases optional with absent | present
  · obtain ⟨char, rest, rfl⟩ := List.exists_cons_of_ne_nil filled
    have digit := decimal char (by simp)
    -- A plus sign is no digit, so no sign is taken off digits.
    have noSign : char ≠ '+' := by
      rintro rfl
      exact absurd digit (by decide)
    simp [absent, withoutPlus, noSign]
  · simp [present, withoutPlus]

/-- Reading gives a count exactly for the texts that denote it. -/
theorem read?_eq_some_iff (text : String) (count : Nat) :
    read? text = some count ↔ Denotes text count := by
  rw [read?, Option.filter_eq_some_iff, Decimal.natOfDigits?_eq_some_iff, Bool.and_eq_true,
    decide_eq_true_eq, decide_eq_true_eq]
  constructor
  · -- What was read is put together again: white space, sign, digits, white space.
    rintro ⟨⟨filled, decimal, number⟩, inRange⟩
    obtain ⟨before, after, whole, blankBefore, blankAfter⟩ := trimBlank_split text.toList
    obtain ⟨sign, signed, optional⟩ := withoutPlus_split (trimBlank text.toList)
    refine ⟨before, sign, withoutPlus (trimBlank text.toList), after, ?_, blankBefore, blankAfter,
      optional, filled, decimal, number, inRange⟩
    rw [← signed]
    exact whole
  · rintro ⟨before, sign, digits, after, whole, blankBefore, blankAfter, optional, filled, decimal,
      number, inRange⟩
    -- Neither the sign nor a digit is white space, so trimming leaves both.
    have inked : ∀ char ∈ sign ++ digits, ¬ isBlank char := by
      intro char member
      rcases List.mem_append.mp member with isSign | isDigit
      · have plus : char = '+' := by
          rcases optional with rfl | rfl
          · simp at isSign
          · exact List.mem_singleton.mp isSign
        subst plus
        decide
      · exact isBlank_of_isDigit (decimal char isDigit)
    have trimmed : trimBlank text.toList = sign ++ digits := by
      rw [whole]
      exact trimBlank_surrounded blankBefore blankAfter inked (by simp [filled])
    rw [trimmed, withoutPlus_append optional filled decimal]
    exact ⟨⟨filled, decimal, number⟩, inRange⟩

/-- The texts that denote a count are those that show it in decimal, with any number of zeros and an
optional plus sign in front and white space around. -/
theorem denotes_iff_shows (text : String) (count : Nat) :
    Denotes text count ↔ 1 ≤ count ∧ count ≤ 4294967295 ∧
      ∃ (before sign after : List Char) (zeros : Nat),
        text.toList =
          before ++ (sign ++ (List.replicate zeros '0' ++ Nat.toDigits 10 count)) ++ after ∧
        (∀ char ∈ before, isBlank char) ∧ (∀ char ∈ after, isBlank char) ∧
        (sign = [] ∨ sign = ['+']) := by
  constructor
  · -- Digits that denote a count are its decimal digits behind some zeros.
    rintro ⟨before, sign, digits, after, whole, blankBefore, blankAfter, optional, filled, decimal,
      rfl, least, most⟩
    obtain ⟨zeros, padded⟩ := Decimal.exists_zeros_append_toDigits filled decimal
    exact ⟨least, most, before, sign, after, zeros, padded ▸ whole, blankBefore, blankAfter,
      optional⟩
  · rintro ⟨least, most, before, sign, after, zeros, whole, blankBefore, blankAfter, optional⟩
    -- Zeros and then the digits of a count are digits, and denote that count.
    refine ⟨before, sign, _, after, whole, blankBefore, blankAfter, optional, ?_, ?_,
      (Decimal.ofDigitChars_zeros_append zeros count).symm, least, most⟩
    · exact List.append_ne_nil_of_right_ne_nil _ Nat.toDigits_ne_nil
    · intro char member
      rcases List.mem_append.mp member with zero | digit
      · rw [List.eq_of_mem_replicate zero]
        rfl
      · exact Decimal.isDigit_of_mem_toDigits digit

/-- The text of a single run denotes it. -/
theorem denotes_one : Denotes "1" 1 := (read?_eq_some_iff "1" 1).mp (by decide)

end RepeatCount

end Launcher
