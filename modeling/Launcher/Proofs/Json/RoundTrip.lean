import Launcher.Json.Reader
import Launcher.Proofs.Text.Decimal
import Mathlib.Data.List.TakeWhile

/-! Reading the compact form of a JSON value gives the value back. -/

namespace Launcher.Json

/-- The characters that have an escape of their own. -/
def lettered : List Char := ['"', '\\', '\x08', '\t', '\n', '\x0c', '\r']

/-- Control characters without an escape of their own are spelled by their code. -/
theorem escape_of_control {char : Char} (plain : char ∉ lettered) (control : char.toNat < 0x20) :
    escape char =
      ['\\', 'u', '0', '0', Nat.digitChar (char.toNat / 16), Nat.digitChar (char.toNat % 16)] := by
  -- The letters come first, and they are excluded.
  unfold escape
  split <;> simp_all [lettered]

/-- All other characters stand for themselves. -/
theorem escape_of_plain {char : Char} (plain : char ∉ lettered) (visible : ¬ char.toNat < 0x20) :
    escape char = [char] := by
  -- Neither a letter nor the form of a code applies.
  unfold escape
  split <;> simp_all [lettered]

/-- The two digits that vary among the codes of control characters are read back. -/
theorem codeUnit?_control : ∀ code < 0x20,
    codeUnit? '0' '0' (Nat.digitChar (code / 16)) (Nat.digitChar (code % 16)) = some code := by
  -- There are few enough codes to go through.
  decide

/-- The spelling of a character is read back as that character. -/
theorem readString_escape (char : Char) (rest : List Char) :
    readString (escape char ++ rest) = withChar char (readString rest) := by
  by_cases letter : char ∈ lettered
  · simp only [lettered, List.mem_cons, List.not_mem_nil, or_false] at letter
    rcases letter with rfl | rfl | rfl | rfl | rfl | rfl | rfl <;> rfl
  · by_cases control : char.toNat < 0x20
    · -- The code is none of those that come in pairs.
      have code := codeUnit?_control char.toNat control
      have low : ¬ 0xD800 ≤ char.toNat ∧ ¬ 0xDC00 ≤ char.toNat := by omega
      rw [escape_of_control letter control]
      simp [readString, code, low, Char.ofNat_toNat]
    · rw [escape_of_plain letter control]
      simp only [lettered, List.mem_cons, List.not_mem_nil, or_false, not_or] at letter
      simp [readString, letter, control]

/-- A text between quotes is read back up to the second quote. -/
theorem readString_escaped (text rest : List Char) :
    readString (text.flatMap escape ++ '"' :: rest) = some (text, rest) := by
  -- Each character is read back in front of the rest of the text.
  induction text with
  | nil => rfl
  | cons char later ih =>
    rw [List.flatMap_cons, List.append_assoc, readString_escape, ih]
    rfl

/-- A text in quotes is its first quote, the spelling of its characters, and its second quote. -/
theorem quoteChars_append (text : String) (rest : List Char) :
    quoteChars text ++ rest = '"' :: (text.toList.flatMap escape ++ '"' :: rest) := by
  -- What follows stands behind the closing quote.
  simp [quoteChars]

/-- What may follow a number: nothing that could be taken for more of it. -/
def EndsNumber (rest : List Char) : Prop :=
  ∀ char, rest.head? = some char → ¬ char.isDigit ∧ char ≠ '.' ∧ char ≠ 'e' ∧ char ≠ 'E'

/-- The digits of a number are read back. -/
theorem readDigits_toDigits (number : Nat) {rest : List Char} (ends : EndsNumber rest) :
    readDigits (Nat.toDigits 10 number ++ rest) = some (number, rest) := by
  have decimal : ∀ char ∈ Nat.toDigits 10 number, char.isDigit :=
    fun char => Decimal.isDigit_of_mem_toDigits
  -- The digits end where the number ends.
  have stops : rest.takeWhile Char.isDigit = [] ∧ rest.dropWhile Char.isDigit = rest := by
    cases rest with
    | nil => exact ⟨rfl, rfl⟩
    | cons char later =>
      have noDigit := (ends char rfl).1
      exact ⟨List.takeWhile_cons_of_neg noDigit, List.dropWhile_cons_of_neg noDigit⟩
  have taken :
      (Nat.toDigits 10 number ++ rest).takeWhile Char.isDigit = Nat.toDigits 10 number := by
    rw [List.takeWhile_append_of_pos decimal, stops.1, List.append_nil]
  have left : (Nat.toDigits 10 number ++ rest).dropWhile Char.isDigit = rest := by
    rw [List.dropWhile_append_of_pos decimal, stops.2]
  -- A zero in front is the only digit.
  have short : ¬ ((Nat.toDigits 10 number).head? = some '0' ∧
      (Nat.toDigits 10 number).length > 1) := by
    rintro ⟨zero, long⟩
    rw [Decimal.eq_zero_of_head?_toDigits zero] at long
    exact absurd long (by decide)
  have whole : ¬ ((rest.head? = some '.' ∨ rest.head? = some 'e') ∨ rest.head? = some 'E') := by
    rintro ((point | small) | great)
    · exact (ends _ point).2.1 rfl
    · exact (ends _ small).2.2.1 rfl
    · exact (ends _ great).2.2.2 rfl
  unfold readDigits
  simp only [taken, left, Decimal.natOfDigits?_toDigits, Bool.and_eq_true, Bool.or_eq_true,
    decide_eq_true_eq, short, whole, if_false, Option.map_some]

/-- The decimal text of a whole number is read back. -/
theorem readInt_ofInt (value : Int) {rest : List Char} (ends : EndsNumber rest) :
    readInt ((Decimal.ofInt value).toList ++ rest) = some (value, rest) := by
  cases value with
  | ofNat number =>
    have text : (Decimal.ofInt (.ofNat number)).toList = Nat.toDigits 10 number := by
      simp [Decimal.ofInt, Decimal.ofNat]
    -- The first character is a digit, hence no minus sign.
    obtain ⟨first, later, digits⟩ :=
      List.exists_cons_of_ne_nil (Nat.toDigits_ne_nil (b := 10) (n := number))
    have digit : first.isDigit :=
      Decimal.isDigit_of_mem_toDigits (show first ∈ Nat.toDigits 10 number by simp [digits])
    have noSign : first ≠ '-' := by
      rintro rfl
      exact absurd digit (by decide)
    have read := readDigits_toDigits number ends
    rw [text]
    rw [digits, List.cons_append] at read ⊢
    simp [readInt, noSign, read]
  | negSucc number =>
    have text : (Decimal.ofInt (.negSucc number)).toList = '-' :: Nat.toDigits 10 (number + 1) := by
      simp [Decimal.ofInt, Decimal.ofNat]
    rw [text, List.cons_append]
    simp only [readInt, readDigits_toDigits _ ends, Option.map_some]
    rfl

/-- Where no blank comes first, there is none to skip. -/
theorem skipBlanks_cons (char : Char) (inked : char ∉ [' ', '\t', '\n', '\r'])
    (rest : List Char) : skipBlanks (char :: rest) = char :: rest :=
  List.dropWhile_cons_of_neg (by simpa [and_assoc] using inked)

/-- The characters that start a number. -/
def startsNumber (char : Char) : Bool := char.isDigit || char == '-'

/-- The decimal text of a whole number starts like a number. -/
theorem exists_ofInt_eq_cons (value : Int) :
    ∃ first later, (Decimal.ofInt value).toList = first :: later ∧ startsNumber first := by
  -- A number starts with a digit, or with a minus sign if it is negative.
  cases value with
  | ofNat number =>
    obtain ⟨first, later, digits⟩ :=
      List.exists_cons_of_ne_nil (Nat.toDigits_ne_nil (b := 10) (n := number))
    have digit : first.isDigit :=
      Decimal.isDigit_of_mem_toDigits (show first ∈ Nat.toDigits 10 number by simp [digits])
    exact ⟨first, later, by simpa [Decimal.ofInt, Decimal.ofNat], by simp [startsNumber, digit]⟩
  | negSucc number =>
    exact ⟨'-', Nat.toDigits 10 (number + 1), by simp [Decimal.ofInt, Decimal.ofNat], rfl⟩

/-- A whole number is read back as a value. -/
theorem readValue_int (fuel : Nat) (value : Int) {rest : List Char} (ends : EndsNumber rest) :
    readValue (fuel + 1) (renderChars (.int value) ++ rest) = some (.int value, rest) := by
  have read := readInt_ofInt value ends
  obtain ⟨first, later, text, number⟩ := exists_ofInt_eq_cons value
  rw [renderChars, text, List.cons_append]
  rw [text, List.cons_append] at read
  -- Nothing else starts like a number.
  have inked : first ∉ [' ', '\t', '\n', '\r'] := by
    intro blank
    have none : ∀ char ∈ [' ', '\t', '\n', '\r'], ¬ startsNumber char := by simp [startsNumber]
    exact none first blank number
  have other : first ∉ ['n', 't', 'f', '"', '[', '{'] := by
    intro member
    have none : ∀ char ∈ ['n', 't', 'f', '"', '[', '{'], ¬ startsNumber char := by
      simp [startsNumber]
    exact none first member number
  simp only [List.mem_cons, List.not_mem_nil, or_false, not_or] at other
  simp [readValue, skipBlanks_cons _ inked, other, read]

/-- A text in quotes is read back as a value. -/
theorem readValue_str (fuel : Nat) (text : String) (rest : List Char) :
    readValue (fuel + 1) (renderChars (.str text) ++ rest) = some (.str text, rest) := by
  -- The opening quote tells that a text follows, and is no blank.
  have read := readString_escaped text.toList rest
  rw [renderChars, quoteChars_append]
  simp [readValue, skipBlanks_cons '"' (by decide), read]

/-- A number ends where the other items of a list follow, or its end. -/
theorem endsNumber_renderItems (items : List Json) (rest : List Char) :
    EndsNumber (renderItems items ++ rest) := by
  -- What follows an item starts with a comma or with the closing bracket.
  intro char first
  cases items with
  | nil =>
    obtain rfl : ']' = char := by simpa [renderItems] using first
    decide
  | cons item later =>
    obtain rfl : ',' = char := by simpa [renderItems] using first
    decide

/-- A number ends where the other members of an object follow, or its end. -/
theorem endsNumber_renderMembers (members : List (String × Json)) (rest : List Char) :
    EndsNumber (renderMembers members ++ rest) := by
  -- What follows a member starts with a comma or with the closing brace.
  intro char first
  cases members with
  | nil =>
    obtain rfl : '}' = char := by simpa [renderMembers] using first
    decide
  | cons member later =>
    obtain rfl : ',' = char := by simpa [renderMembers] using first
    decide

/-- No value starts with a blank or with a closing bracket. -/
theorem exists_renderChars_eq_cons (value : Json) :
    ∃ first later, renderChars value = first :: later ∧
      first ∉ [' ', '\t', '\n', '\r'] ∧ first ≠ ']' := by
  -- Each form has a first character of its own, and only numbers vary in theirs.
  cases value with
  | null => exact ⟨'n', _, rfl, by decide, by decide⟩
  | bool value =>
    cases value
    · exact ⟨'f', _, rfl, by decide, by decide⟩
    · exact ⟨'t', _, rfl, by decide, by decide⟩
  | int value =>
    obtain ⟨first, later, text, number⟩ := exists_ofInt_eq_cons value
    -- None of the excluded characters can start a number.
    have none : ∀ char ∈ [' ', '\t', '\n', '\r', ']'], ¬ startsNumber char := by simp [startsNumber]
    refine ⟨first, later, text, fun blank => ?_, fun bracket => ?_⟩
    · exact none first (List.mem_append_left [']'] blank) number
    · exact none first (by simp [bracket]) number
  | str text => exact ⟨'"', _, rfl, by decide, by decide⟩
  | arr items => cases items <;> exact ⟨'[', _, rfl, by decide, by decide⟩
  | obj members => rcases members with _ | ⟨⟨name, value⟩, later⟩ <;>
      exact ⟨'{', _, rfl, by decide, by decide⟩

/-- The compact form of a value is not empty. -/
theorem length_renderChars_pos (value : Json) : 0 < (renderChars value).length := by
  -- There is a first character.
  obtain ⟨first, later, starts, -⟩ := exists_renderChars_eq_cons value
  simp [starts]

mutual

/-- A value in compact form is read back, given two steps for each of its characters. -/
theorem readValue_renderChars (value : Json) (fuel : Nat) {rest : List Char}
    (enough : 2 * (renderChars value).length ≤ fuel) (ends : EndsNumber rest) :
    readValue fuel (renderChars value ++ rest) = some (value, rest) := by
  obtain ⟨fuel, rfl⟩ : ∃ more, fuel = more + 1 :=
    Nat.exists_eq_add_one.mpr (by have := length_renderChars_pos value; omega)
  match value with
  | .null | .bool true | .bool false | .arr [] | .obj [] => rfl
  | .int value => exact readValue_int fuel value ends
  | .str text => exact readValue_str fuel text rest
  | .arr (item :: items) =>
    rw [renderChars, List.length_cons, List.length_append] at enough
    have read := readItems_renderItems item items fuel rest (by omega)
    -- The first item does not start with the bracket that would close an empty list.
    obtain ⟨first, later, starts, inked, closed⟩ := exists_renderChars_eq_cons item
    rw [renderChars, List.cons_append, List.append_assoc]
    rw [starts, List.cons_append] at read ⊢
    simp [readValue, skipBlanks_cons '[' (by decide), skipBlanks_cons _ inked, closed, read]
  | .obj ((name, value) :: members) =>
    rw [renderChars, List.length_cons, List.length_append, List.length_cons,
      List.length_append] at enough
    have read := readMembers_renderMembers name value members fuel rest (by omega)
    simp only [renderChars, List.cons_append, List.append_assoc]
    rw [quoteChars_append] at read ⊢
    simp [readValue, skipBlanks_cons '{' (by decide),
      skipBlanks_cons '"' (by decide), read]
termination_by fuel

/-- The items of a list are read back up to its closing bracket. -/
theorem readItems_renderItems (item : Json) (items : List Json) (fuel : Nat) (rest : List Char)
    (enough : 2 * ((renderChars item).length + (renderItems items).length) ≤ fuel) :
    readItems fuel (renderChars item ++ (renderItems items ++ rest)) =
      some (item :: items, rest) := by
  -- By recursion on the fuel, together with values and members. A step takes one off the fuel, and
  -- as every rendering has a character at least, enough is left for the item and for the later ones.
  have filled := length_renderChars_pos item
  obtain ⟨fuel, rfl⟩ : ∃ more, fuel = more + 1 := Nat.exists_eq_add_one.mpr (by omega)
  match items with
  | [] =>
    rw [renderItems, List.length_singleton] at enough
    -- The item is read up to what stands behind it, which does not go on with a number.
    have read := readValue_renderChars item fuel (by omega)
      (endsNumber_renderItems [] rest)
    simp only [renderItems, List.cons_append, List.nil_append] at read ⊢
    simp [readItems, read, skipBlanks_cons ']' (by decide)]
  | next :: later =>
    rw [renderItems, List.length_cons, List.length_append] at enough
    have read := readValue_renderChars item fuel (by omega)
      (endsNumber_renderItems (next :: later) rest)
    -- The comma is passed over, and the later items are a list of their own.
    have more := readItems_renderItems next later fuel rest (by omega)
    rw [renderItems, List.cons_append, List.append_assoc] at read ⊢
    simp [readItems, read, more, skipBlanks_cons ',' (by decide)]
termination_by fuel

/-- The members of an object are read back up to its closing brace. -/
theorem readMembers_renderMembers (name : String) (value : Json) (members : List (String × Json))
    (fuel : Nat) (rest : List Char)
    (enough : 2 * ((quoteChars name).length + ((renderChars value).length +
      (renderMembers members).length)) ≤ fuel) :
    readMembers fuel (quoteChars name ++ ':' :: (renderChars value ++
      (renderMembers members ++ rest))) = some ((name, value) :: members, rest) := by
  -- By recursion on the fuel, together with values and items. The name is read as a text, the colon
  -- is passed over, and the value is read up to what stands behind it.
  have filled := length_renderChars_pos value
  obtain ⟨fuel, rfl⟩ : ∃ more, fuel = more + 1 := Nat.exists_eq_add_one.mpr (by omega)
  have key := readString_escaped name.toList
  match members with
  | [] =>
    rw [renderMembers, List.length_singleton] at enough
    have read := readValue_renderChars value fuel (by omega)
      (endsNumber_renderMembers [] rest)
    simp only [renderMembers, List.cons_append, List.nil_append] at read ⊢
    rw [quoteChars_append]
    simp [readMembers, read, key,
      skipBlanks_cons '"' (by decide), skipBlanks_cons ':' (by decide),
      skipBlanks_cons '}' (by decide)]
  | (next, other) :: later =>
    rw [renderMembers, List.length_cons, List.length_append, List.length_cons,
      List.length_append] at enough
    have read := readValue_renderChars value fuel (by omega)
      (endsNumber_renderMembers ((next, other) :: later) rest)
    -- The comma is passed over, and the later members are an object of their own.
    have more := readMembers_renderMembers next other later fuel rest (by omega)
    simp only [renderMembers, List.cons_append, List.append_assoc] at read ⊢
    rw [quoteChars_append name]
    simp [readMembers, read, more, key,
      skipBlanks_cons '"' (by decide), skipBlanks_cons ':' (by decide),
      skipBlanks_cons ',' (by decide)]
termination_by fuel

end

/-- A value in compact form is read back, whatever blanks follow it. -/
theorem read?_render_append (value : Json) (after : String)
    (blank : ∀ char ∈ after.toList, char ∈ [' ', '\t', '\n', '\r']) :
    read? (value.render ++ after) = some value := by
  -- What follows neither continues a number nor leaves anything but blanks to be skipped.
  have ends : EndsNumber after.toList := by
    intro char first
    have apart : ∀ blank ∈ [' ', '\t', '\n', '\r'],
        ¬ blank.isDigit ∧ blank ≠ '.' ∧ blank ≠ 'e' ∧ blank ≠ 'E' := by simp
    exact apart char (blank char (List.mem_of_mem_head? first))
  have skipped : skipBlanks after.toList = [] := by
    refine List.dropWhile_eq_nil_iff.mpr fun char member => ?_
    simpa [or_assoc] using blank char member
  -- The fuel is measured by the length of the text, which is at least that of the rendering.
  have enough : 2 * (renderChars value).length ≤ 2 * (value.render ++ after).length + 2 := by
    rw [render, String.length_append, String.length_ofList]
    omega
  have text : (value.render ++ after).toList = renderChars value ++ after.toList := by
    rw [render, String.toList_append, String.toList_ofList]
  rw [read?, text, readValue_renderChars value _ enough ends]
  simp [skipped]

/-- A value in compact form is read back. -/
theorem read?_render (value : Json) : read? value.render = some value := by
  -- This is the case in which nothing follows.
  have read := read?_render_append value "" (by simp)
  rwa [String.append_empty] at read

/-- No two values have the same compact form. -/
theorem render_injective {value other : Json} (same : value.render = other.render) :
    value = other := by
  -- The text is read back as either value.
  have read := read?_render other
  rw [← same, read?_render] at read
  exact Option.some_inj.mp read

end Launcher.Json
