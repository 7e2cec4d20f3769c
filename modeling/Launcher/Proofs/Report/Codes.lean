import Launcher.Proofs.Json.RoundTrip
import Launcher.Reporter

/-! The exit codes in the text of a report are a list in JSON. -/

namespace Launcher

namespace Json

/-- A blank in front of a value does not matter. -/
theorem readValue_blank (fuel : Nat) (text : List Char) :
    readValue fuel (' ' :: text) = readValue fuel text := by
  -- A value is read behind the blanks before it, however many there are.
  have skipped : skipBlanks (' ' :: text) = skipBlanks text := List.dropWhile_cons_of_pos rfl
  cases fuel with
  | zero => rfl
  | succ fuel => rw [readValue, readValue, skipped]

/-- A blank in front of the items of a list does not matter. -/
theorem readItems_blank (fuel : Nat) (text : List Char) :
    readItems fuel (' ' :: text) = readItems fuel text := by
  -- Items begin with a value, which is read behind the blanks before it.
  cases fuel with
  | zero => rfl
  | succ fuel => rw [readItems, readItems, readValue_blank]

/-- Whole numbers with commas and blanks between them. -/
def spaced (numbers : List Int) : List Char :=
  (String.intercalate ", " (numbers.map Decimal.ofInt)).toList

/-- A single number stands alone. -/
theorem spaced_singleton (number : Int) : spaced [number] = (Decimal.ofInt number).toList := by
  -- There is no separator beside an only number.
  simp [spaced]

/-- A comma and a blank stand between two numbers. -/
theorem spaced_cons_cons (number next : Int) (later : List Int) :
    spaced (number :: next :: later) =
      (Decimal.ofInt number).toList ++ ',' :: ' ' :: spaced (next :: later) := by
  -- Between two numbers stand a comma and a blank.
  rw [spaced, List.map_cons, List.map_cons, String.intercalate_cons_cons]
  simp [spaced]

/-- Each number adds a character at least. -/
theorem length_le_spaced (numbers : List Int) : numbers.length ≤ (spaced numbers).length := by
  -- By recursion on the numbers, each of which takes at least one character.
  match numbers with
  | [] => exact Nat.zero_le _
  | [number] =>
    rw [spaced_singleton]
    exact length_renderChars_pos (.int number)
  | number :: next :: later =>
    have others := length_le_spaced (next :: later)
    rw [spaced_cons_cons]
    simp only [List.length_append, List.length_cons] at others ⊢
    omega

/-- Numbers start neither with a blank nor with a closing bracket. -/
theorem exists_spaced_eq_cons (number : Int) (later : List Int) :
    ∃ first rest, spaced (number :: later) = first :: rest ∧
      first ∉ [' ', '\t', '\n', '\r'] ∧ first ≠ ']' := by
  -- The text begins with that of the first number, whatever follows.
  obtain ⟨first, rest, starts, inked, other⟩ := exists_renderChars_eq_cons (.int number)
  rw [renderChars] at starts
  cases later with
  | nil => exact ⟨first, rest, by rw [spaced_singleton, starts], inked, other⟩
  | cons next later =>
    exact ⟨first, _, by rw [spaced_cons_cons, starts, List.cons_append], inked, other⟩

/-- Whole numbers with commas and blanks between them are read up to the closing bracket. -/
theorem readItems_spaced (number : Int) (later : List Int) (fuel : Nat) (rest : List Char)
    (enough : later.length + 1 < fuel) :
    readItems fuel (spaced (number :: later) ++ ']' :: rest) =
      some ((number :: later).map .int, rest) := by
  obtain ⟨fuel, rfl⟩ : ∃ more, fuel = more + 2 := Nat.exists_eq_add_of_le' (by omega)
  match later with
  | [] =>
    have read := readValue_int fuel number (endsNumber_renderItems [] rest)
    rw [renderChars, renderItems] at read
    rw [spaced_singleton]
    simp only [List.cons_append, List.nil_append] at read ⊢
    simp [readItems, read, skipBlanks_cons ']' (by decide)]
  | next :: later =>
    -- The later numbers are read by the same lemma, behind the comma and the blank.
    have others := readItems_spaced next later (fuel + 1) rest
      (by rw [List.length_cons] at enough; omega)
    -- The number ends at the comma behind it.
    have ends : EndsNumber (',' :: ' ' :: (spaced (next :: later) ++ ']' :: rest)) := by
      rintro char ⟨⟩
      decide
    have read := readValue_int fuel number ends
    rw [renderChars] at read
    rw [spaced_cons_cons, List.append_assoc, List.cons_append, List.cons_append, readItems, read]
    simp [skipBlanks_cons ',' (by decide), readItems_blank, others]

end Json

/-- The exit codes of a report, as they stand in its text, are read as the list of them. -/
theorem Reporter.read?_codesText (codes : List Int) :
    Json.read? (codesText codes) = some (.arr (codes.map .int)) := by
  have text : (codesText codes).toList = '[' :: (Json.spaced codes ++ [']']) := by
    simp [codesText, Json.spaced]
  -- The reader may take two steps for each character, and each code has at least one.
  have room : codes.length + 2 ≤ (codesText codes).length := by
    have shown := Json.length_le_spaced codes
    rw [← String.length_toList, text, List.length_cons, List.length_append, List.length_singleton]
    omega
  unfold Json.read?
  rw [text]
  -- The brackets of an empty list stand next to each other.
  cases codes with
  | nil => rfl
  | cons code later =>
    have read := Json.readItems_spaced code later (2 * (codesText (code :: later)).length + 1)
      [] (by rw [List.length_cons] at room; omega)
    obtain ⟨first, rest, starts, inked, other⟩ := Json.exists_spaced_eq_cons code later
    have ended : Json.skipBlanks [] = [] := rfl
    rw [starts, List.cons_append] at read ⊢
    simp [Json.readValue, Json.skipBlanks_cons '[' (by decide), Json.skipBlanks_cons _ inked,
      other, read, ended]

end Launcher
