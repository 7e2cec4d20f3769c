import Launcher.Proofs.Json.RoundTrip

/-! The compact form of a JSON value has no control character in it, hence is on one line. -/

namespace Launcher.Json

/-- A character that is shown as it is on one line. -/
def Visible (char : Char) : Prop := 0x20 ≤ char.toNat

instance (char : Char) : Decidable (Visible char) := inferInstanceAs (Decidable (_ ≤ _))

/-- The spelling of a character is visible. -/
theorem visible_of_mem_escape {char : Char} : ∀ part ∈ escape char, Visible part := by
  -- The three forms of an escape are gone through, a letter, a code, and the character itself.
  by_cases letter : char ∈ lettered
  · have bounded : ∀ char ∈ lettered, ∀ part ∈ escape char, Visible part := by
      simp [lettered, escape, Visible]
    exact bounded char letter
  · by_cases control : char.toNat < 0x20
    · rw [escape_of_control letter control]
      have marks : Visible '\\' ∧ Visible 'u' ∧ Visible '0' := by decide
      -- A code below the space has two digits that vary.
      have digits : ∀ code < 0x20,
          Visible (Nat.digitChar (code / 16)) ∧ Visible (Nat.digitChar (code % 16)) := by decide
      simpa [marks] using digits char.toNat control
    · -- What stands for itself is no control character.
      rw [escape_of_plain letter control]
      simpa [Visible] using control

/-- A text in quotes is visible. -/
theorem visible_of_mem_quoteChars {text : String} : ∀ part ∈ quoteChars text, Visible part := by
  -- Between the quotes there are the parts of escapes only.
  have quote : Visible '"' := by decide
  have inside : ∀ part ∈ text.toList.flatMap escape, Visible part := by
    intro part member
    obtain ⟨char, -, spelled⟩ := List.mem_flatMap.mp member
    exact visible_of_mem_escape part spelled
  simpa [quoteChars, quote, or_imp, forall_and] using inside

/-- The decimal text of a whole number is visible. -/
theorem visible_of_mem_ofInt {value : Int} :
    ∀ part ∈ (Decimal.ofInt value).toList, Visible part := by
  -- There are digits, and a minus sign in front of them if the number is negative.
  have digits : ∀ number : Nat, ∀ part ∈ Nat.toDigits 10 number, Visible part := by
    intro number part member
    have digit := Decimal.isDigit_of_mem_toDigits member
    have code : 48 ≤ part.toNat ∧ part.toNat ≤ 57 := Char.isDigit_iff_toNat.mp digit
    exact Nat.le_trans (by decide) code.1
  have sign : Visible '-' := by decide
  cases value with
  | ofNat number => simpa [Decimal.ofInt, Decimal.ofNat] using digits number
  | negSucc number =>
    simpa [Decimal.ofInt, Decimal.ofNat, sign] using digits (number + 1)

mutual

/-- The compact form of a value has no control character in it. -/
theorem visible_of_mem_renderChars : ∀ value : Json, ∀ part ∈ renderChars value, Visible part
  | .null | .bool true | .bool false | .arr [] | .obj [] => by
    simp [renderChars, Visible]
  | .int value => visible_of_mem_ofInt
  | .str text => visible_of_mem_quoteChars
  | .arr (item :: items) => by
    -- The closing bracket is part of what is rendered for the later items.
    have bracket : Visible '[' := by decide
    have first := visible_of_mem_renderChars item
    have others := visible_of_mem_renderItems items
    simpa [renderChars, bracket, or_imp, forall_and] using ⟨first, others⟩
  | .obj ((name, value) :: members) => by
    -- The closing brace is part of what is rendered for the later members.
    have marks : Visible '{' ∧ Visible ':' := by decide
    have key : ∀ part ∈ quoteChars name, Visible part := visible_of_mem_quoteChars
    have first := visible_of_mem_renderChars value
    have others := visible_of_mem_renderMembers members
    simpa [renderChars, marks, or_imp, forall_and] using ⟨key, first, others⟩

/-- The further items of a list have no control character in them. -/
theorem visible_of_mem_renderItems : ∀ items : List Json, ∀ part ∈ renderItems items, Visible part
  | [] => by simp [renderItems, Visible]
  | item :: items => by
    -- Each later item stands behind a comma.
    have comma : Visible ',' := by decide
    have first := visible_of_mem_renderChars item
    have others := visible_of_mem_renderItems items
    simpa [renderItems, comma, or_imp, forall_and] using ⟨first, others⟩

/-- The further members of an object have no control character in them. -/
theorem visible_of_mem_renderMembers :
    ∀ members : List (String × Json), ∀ part ∈ renderMembers members, Visible part
  | [] => by simp [renderMembers, Visible]
  | (name, value) :: members => by
    -- Each later member stands behind a comma, and its name before a colon.
    have marks : Visible ',' ∧ Visible ':' := by decide
    have key : ∀ part ∈ quoteChars name, Visible part := visible_of_mem_quoteChars
    have first := visible_of_mem_renderChars value
    have others := visible_of_mem_renderMembers members
    simpa [renderMembers, marks, or_imp, forall_and] using ⟨key, first, others⟩

end

end Launcher.Json
