import Launcher.Text.Decimal
import Mathlib.Data.List.Induction

/-! The decimal text of a number: what it is made of, and that it is read back. -/

namespace Launcher.Decimal

/-- Digits denote a number exactly when there is at least one of them and nothing else. -/
theorem natOfDigits?_eq_some_iff (digits : List Char) (number : Nat) :
    natOfDigits? digits = some number ↔
      digits ≠ [] ∧ (∀ char ∈ digits, char.isDigit) ∧ number = Nat.ofDigitChars 10 digits 0 := by
  unfold natOfDigits?
  -- The reader's test is the same condition as a Boolean.
  by_cases row : (!digits.isEmpty && digits.all Char.isDigit) = true
  · have parts : digits ≠ [] ∧ ∀ char ∈ digits, char.isDigit := by simpa using row
    rw [if_pos row, Option.some_inj]
    exact ⟨fun same => ⟨parts.1, parts.2, same.symm⟩, fun read => read.2.2.symm⟩
  · have broken : ¬ (digits ≠ [] ∧ ∀ char ∈ digits, char.isDigit) := by simpa using row
    rw [if_neg row]
    constructor
    · intro refused
      cases refused
    · intro read
      exact absurd ⟨read.1, read.2.1⟩ broken

/-- The decimal text of a number is made of digits. -/
theorem isDigit_of_mem_toDigits {number : Nat} {char : Char}
    (member : char ∈ Nat.toDigits 10 number) : char.isDigit :=
  Nat.isDigit_of_mem_toDigits (by decide) (by decide) member

/-- The decimal text of a number is read back as that number. -/
theorem natOfDigits?_toDigits (number : Nat) :
    natOfDigits? (Nat.toDigits 10 number) = some number := by
  -- The digits of a number are not empty, and denote it.
  rw [natOfDigits?_eq_some_iff, Nat.ofDigitChars_toDigits (by decide) (by decide)]
  exact ⟨Nat.toDigits_ne_nil, fun char => isDigit_of_mem_toDigits, rfl⟩

/-- Only zero is written with a zero in front. -/
theorem eq_zero_of_head?_toDigits {number : Nat}
    (zero : (Nat.toDigits 10 number).head? = some '0') : number = 0 := by
  induction number using Nat.strongRecOn with
  | ind number ih =>
    by_cases single : number < 10
    · -- The one digit tells the number.
      have digits : ∀ number < 10, (Nat.digitChar number = '0') → number = 0 := by decide
      rw [Nat.toDigits_of_lt_base single, List.head?_cons, Option.some_inj] at zero
      exact digits number single zero
    · -- The first digit is that of the number without its last one, which is not zero.
      rw [Nat.toDigits_of_base_le (by decide) (by omega), List.head?_append] at zero
      obtain ⟨first, rest, front⟩ :=
        List.exists_cons_of_ne_nil (Nat.toDigits_ne_nil (b := 10) (n := number / 10))
      have shorter := ih (number / 10) (by omega) (by simpa [front] using zero)
      omega

/-- Zeros in front of the decimal text of a number do not change what it denotes. -/
theorem ofDigitChars_zeros_append (zeros number : Nat) :
    Nat.ofDigitChars 10 (List.replicate zeros '0' ++ Nat.toDigits 10 number) 0 = number := by
  -- Zeros in front add nothing to the value.
  rw [Nat.ofDigitChars_append, Nat.ofDigitChars_replicate_zero, Nat.mul_zero,
    Nat.ofDigitChars_ten_toDigits]

/-- A digit is the decimal text of its own value, which is less than ten. -/
theorem toDigits_of_isDigit {char : Char} (digit : char.isDigit) :
    char.toNat - '0'.toNat < 10 ∧ Nat.toDigits 10 (char.toNat - '0'.toNat) = [char] := by
  have code : 48 ≤ char.toNat ∧ char.toNat ≤ 57 := Char.isDigit_iff_toNat.mp digit
  have zero : '0'.toNat = 48 := rfl
  have small : char.toNat - '0'.toNat < 10 := by omega
  refine ⟨small, ?_⟩
  rw [Nat.toDigits_of_lt_base small]
  -- The digit of the value has the code that the value was taken from.
  refine congrArg (fun digit => [digit]) (Char.toNat_inj.mp ?_)
  rw [Nat.toNat_digitChar_of_lt_ten small]
  omega

/-- A row of digits is the decimal text of the number that it denotes, behind zeros. -/
theorem exists_zeros_append_toDigits {digits : List Char} (filled : digits ≠ [])
    (decimal : ∀ char ∈ digits, char.isDigit) :
    ∃ zeros, digits =
      List.replicate zeros '0' ++ Nat.toDigits 10 (Nat.ofDigitChars 10 digits 0) := by
  -- Each further digit makes ten times the number before it, so the induction goes from the end.
  induction digits using List.reverseRecOn with
  | nil => exact absurd rfl filled
  | append_singleton front char ih =>
    obtain ⟨small, itself⟩ := toDigits_of_isDigit (decimal char (by simp))
    rw [Nat.ofDigitChars_append, Nat.ofDigitChars_cons, Nat.ofDigitChars_nil]
    generalize char.toNat - '0'.toNat = value at small itself
    by_cases alone : front = []
    · subst alone
      refine ⟨0, ?_⟩
      rw [Nat.ofDigitChars_nil, Nat.mul_zero, Nat.zero_add, itself]
      rfl
    · obtain ⟨zeros, padded⟩ := ih alone fun earlier member => decimal earlier (by simp [member])
      generalize Nat.ofDigitChars 10 front 0 = number at padded
      rw [padded]
      rcases Nat.eq_zero_or_pos number with rfl | positive
      · -- What stood in front were only zeros, one of them the text of the number zero.
        refine ⟨zeros + 1, ?_⟩
        rw [Nat.mul_zero, Nat.zero_add, itself, Nat.toDigits_zero, List.replicate_succ']
      · refine ⟨zeros, ?_⟩
        rw [← Nat.toDigits_append_toDigits (by decide) positive small, itself, List.append_assoc]

end Launcher.Decimal
