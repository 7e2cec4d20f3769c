import Launcher.Text.Bytes
import Mathlib.Tactic.SplitIfs

/-! Bytes read as text: what is written for a text is read back as it, and nothing else is. -/

namespace Launcher

namespace Utf8

/-- A first byte that asks for more bytes, with a second one that may follow it. -/
def Opens (more first second : Nat) : Prop :=
  more = 1 ∧ 0xC2 ≤ first ∧ first ≤ 0xDF ∧ 0x80 ≤ second ∧ second ≤ 0xBF ∨
  more = 2 ∧ first = 0xE0 ∧ 0xA0 ≤ second ∧ second ≤ 0xBF ∨
  more = 2 ∧ first = 0xED ∧ 0x80 ≤ second ∧ second ≤ 0x9F ∨
  more = 2 ∧ 0xE1 ≤ first ∧ first ≤ 0xEF ∧ first ≠ 0xED ∧ 0x80 ≤ second ∧ second ≤ 0xBF ∨
  more = 3 ∧ first = 0xF0 ∧ 0x90 ≤ second ∧ second ≤ 0xBF ∨
  more = 3 ∧ 0xF1 ≤ first ∧ first ≤ 0xF3 ∧ 0x80 ≤ second ∧ second ≤ 0xBF ∨
  more = 3 ∧ first = 0xF4 ∧ 0x80 ≤ second ∧ second ≤ 0x8F

/-- What a first byte says of the bytes to follow is which ones may. -/
theorem opens_iff {more : Nat} {first second : UInt8} :
    Opens more first.toNat second.toNat ↔
      ∃ lead, lead? first = some lead ∧ lead.more = more ∧
        lead.low ≤ second ∧ second ≤ lead.high := by
  -- The table of first bytes, with its bounds as numbers.
  have table : lead? first =
      if 0xC2 ≤ first.toNat ∧ first.toNat ≤ 0xDF then some ⟨1, 0x80, 0xBF⟩
      else if first.toNat = 0xE0 then some ⟨2, 0xA0, 0xBF⟩
      else if first.toNat = 0xED then some ⟨2, 0x80, 0x9F⟩
      else if 0xE1 ≤ first.toNat ∧ first.toNat ≤ 0xEF then some ⟨2, 0x80, 0xBF⟩
      else if first.toNat = 0xF0 then some ⟨3, 0x90, 0xBF⟩
      else if 0xF1 ≤ first.toNat ∧ first.toNat ≤ 0xF3 then some ⟨3, 0x80, 0xBF⟩
      else if first.toNat = 0xF4 then some ⟨3, 0x80, 0x8F⟩
      else none := by
    simp [lead?, UInt8.le_iff_toNat_le, ← UInt8.toNat_inj]
  -- Each row of the table is one case of what may open a character.
  rw [table, Opens]
  simp only [UInt8.le_iff_toNat_le]
  split_ifs <;> simp <;> omega

/-- The first byte of a longer character is beyond those of short ones. -/
theorem Opens.long {more : Nat} {first second : UInt8}
    (opens : Opens more first.toNat second.toNat) : ¬ first < 0x80 := by
  -- Every first byte that opens more bytes is above the short ones.
  rw [Opens] at opens
  simp only [UInt8.lt_iff_toNat_lt, UInt8.reduceToNat]
  omega

/-- A first byte asks for one, two or three more. -/
theorem Opens.more {more first second : Nat} (opens : Opens more first second) :
    more = 1 ∨ more = 2 ∨ more = 3 := by
  -- The forms of a first byte tell how many bytes are behind it.
  rw [Opens] at opens
  omega

/-- A byte that may continue a character. -/
def Continues (byte : Nat) : Prop := 0x80 ≤ byte ∧ byte ≤ 0xBF

/-- A byte continues a character exactly if it lies in the range for that. -/
theorem isContinuation_iff {byte : UInt8} :
    isContinuation byte = true ↔ Continues byte.toNat := by
  -- The bounds are the same, on bytes and on numbers.
  simp [isContinuation, Continues, UInt8.le_iff_toNat_le]

/-- A first byte and the bytes behind it spell a code. -/
inductive Spells (first : UInt8) (code : Nat) : Bytes → Prop where
  /-- A short character is its own byte. -/
  | one (short : first.toNat < 0x80) (whole : code = first.toNat) : Spells first code []
  /-- One byte follows. -/
  | two {second : UInt8} (opens : Opens 1 first.toNat second.toNat)
    (whole : code = extend (first.toNat % 32) second) : Spells first code [second]
  /-- Two bytes follow. -/
  | three {second third : UInt8} (opens : Opens 2 first.toNat second.toNat)
    (next : Continues third.toNat)
    (whole : code = extend (extend (first.toNat % 16) second) third) :
    Spells first code [second, third]
  /-- Three bytes follow. -/
  | four {second third fourth : UInt8} (opens : Opens 3 first.toNat second.toNat)
    (next : Continues third.toNat) (last : Continues fourth.toNat)
    (whole : code = extend (extend (extend (first.toNat % 8) second) third) fourth) :
    Spells first code [second, third, fourth]

/-- A code that is spelled is read, whatever stands behind its bytes. -/
theorem readOne_of_spells {first : UInt8} {more : Bytes} {code : Nat}
    (spells : Spells first code more) (rest : Bytes) :
    readOne first (more ++ rest) = (some (Char.ofNat code), more.length) := by
  -- A first byte is looked up in the table, and each form of spelling is one of its rows with as
  -- many bytes behind.
  unfold readOne
  cases spells with
  | one short whole =>
    rw [if_pos (by simpa [UInt8.lt_iff_toNat_lt] using short), whole]
    rfl
  | two opens whole =>
    obtain ⟨lead, found, count, within⟩ := opens_iff.mp opens
    simp [opens.long, found, count, within, whole]
  | three opens next whole =>
    obtain ⟨lead, found, count, within⟩ := opens_iff.mp opens
    simp [opens.long, found, count, within, isContinuation_iff.mpr next, whole]
  | four opens next last whole =>
    obtain ⟨lead, found, count, within⟩ := opens_iff.mp opens
    simp [opens.long, found, count, within, isContinuation_iff.mpr next,
      isContinuation_iff.mpr last, whole]

/-- A character that is read is spelled by the first byte and those behind it that were used. -/
theorem spells_of_readOne {first : UInt8} {rest : Bytes} {char : Char} {used : Nat}
    (read : readOne first rest = (some char, used)) :
    ∃ more code, rest = more ++ rest.drop used ∧ Spells first code more ∧
      char = Char.ofNat code := by
  revert read
  fun_cases readOne first rest
  -- Nothing is read where the bytes break off or are out of bounds.
  all_goals intro read
  all_goals cases read
  case case1 short =>
    exact ⟨[], _, rfl, .one (by simpa [UInt8.lt_iff_toNat_lt] using short) rfl, rfl⟩
  case case5 long lead second later found within count =>
    have opens := opens_iff.mpr ⟨lead, found, count, by simpa using within⟩
    exact ⟨[second], _, rfl, .two opens rfl, rfl⟩
  case case7 long lead second found within third later count next =>
    have opens := opens_iff.mpr ⟨lead, found, count, by simpa using within⟩
    exact ⟨[second, third], _, rfl, .three opens (isContinuation_iff.mp next) rfl, rfl⟩
  -- The first two forms are excluded, so that four bytes were read.
  case case11 long lead second found within third next fourth later last code notOne notTwo =>
    have opens := opens_iff.mpr ⟨lead, found, rfl, by simpa using within⟩
    have count : lead.more = 3 := (opens.more.resolve_left notOne).resolve_left notTwo
    rw [count] at opens
    exact ⟨[second, third, fourth], _, rfl,
      .four opens (isContinuation_iff.mp (by simpa using next)) (isContinuation_iff.mp last) rfl,
      rfl⟩

/-- Two bytes spell the codes of eight to eleven bits. -/
theorem two_iff (first second code : Nat) :
    Opens 1 first second ∧ code = first % 32 * 64 + second % 64 ↔
      0x7F < code ∧ code ≤ 0x7FF ∧ first = code / 64 % 32 + 0xC0 ∧ second = code % 64 + 0x80 := by
  -- Both sides are bounds on the same two bytes.
  simp only [Opens, Nat.reduceEqDiff, true_and, false_and, or_false]
  omega

/-- Three bytes spell the codes of twelve to sixteen bits, but for surrogates. -/
theorem three_iff (first second third code : Nat) :
    Opens 2 first second ∧ Continues third ∧
        code = (first % 16 * 64 + second % 64) * 64 + third % 64 ↔
      0x7FF < code ∧ code ≤ 0xFFFF ∧ ¬ (0xD800 ≤ code ∧ code ≤ 0xDFFF) ∧
        first = code / 4096 % 16 + 0xE0 ∧ second = code / 64 % 64 + 0x80 ∧
        third = code % 64 + 0x80 := by
  -- The bounds of the second byte keep out codes that are too small or stand for no character.
  simp only [Opens, Continues, Nat.reduceEqDiff, true_and, false_and, or_false, false_or]
  omega

/-- Four bytes spell the codes of more bits, up to the last one. -/
theorem four_iff (first second third fourth code : Nat) :
    Opens 3 first second ∧ Continues third ∧ Continues fourth ∧
        code = ((first % 8 * 64 + second % 64) * 64 + third % 64) * 64 + fourth % 64 ↔
      0xFFFF < code ∧ code < 0x110000 ∧
        first = code / 262144 % 8 + 0xF0 ∧ second = code / 4096 % 64 + 0x80 ∧
        third = code / 64 % 64 + 0x80 ∧ fourth = code % 64 + 0x80 := by
  -- The bounds of the second byte keep out codes that are too small or too large.
  simp only [Opens, Continues, Nat.reduceEqDiff, true_and, false_and, false_or]
  omega

/-- The bytes of a character by its code. -/
theorem utf8EncodeChar_eq (char : Char) :
    String.utf8EncodeChar char =
      let code := char.toNat
      if code ≤ 0x7F then [.ofNat code]
      else if code ≤ 0x7FF then [.ofNat (code / 64 % 32 + 0xC0), .ofNat (code % 64 + 0x80)]
      else if code ≤ 0xFFFF then
        [.ofNat (code / 4096 % 16 + 0xE0), .ofNat (code / 64 % 64 + 0x80),
          .ofNat (code % 64 + 0x80)]
      else
        [.ofNat (code / 262144 % 8 + 0xF0), .ofNat (code / 4096 % 64 + 0x80),
          .ofNat (code / 64 % 64 + 0x80), .ofNat (code % 64 + 0x80)] := rfl

/-- A byte is made from its number. -/
theorem ofNat_eq_iff {byte : UInt8} {number : Nat} (small : number < 256) :
    UInt8.ofNat number = byte ↔ byte.toNat = number := by
  -- A number below 256 is not cut off.
  rw [← UInt8.toNat_inj, UInt8.toNat_ofNat', Nat.mod_eq_of_lt small, eq_comm]

/-- The bytes of a character spell its code. -/
theorem spells_encode (char : Char) :
    ∃ first more, String.utf8EncodeChar char = first :: more ∧ Spells first char.toNat more := by
  have valid : char.toNat < 0xD800 ∨ 0xDFFF < char.toNat ∧ char.toNat < 0x110000 := char.valid
  rw [utf8EncodeChar_eq]
  generalize char.toNat = code at valid ⊢
  -- Numbers below 256 pass through a byte unchanged.
  have number (number : Nat) (small : number < 256) : (UInt8.ofNat number).toNat = number :=
    (ofNat_eq_iff small).mp rfl
  -- A code spells itself in as many bytes as its bounds ask for.
  dsimp only
  split_ifs with one two three
  · have head := number code (by omega)
    exact ⟨_, _, rfl, .one (by omega) head.symm⟩
  · obtain ⟨opens, whole⟩ := (two_iff _ _ code).mpr ⟨by omega, two,
      number _ (by omega), number _ (by omega)⟩
    exact ⟨_, _, rfl, .two opens whole⟩
  · obtain ⟨opens, next, whole⟩ := (three_iff _ _ _ code).mpr ⟨by omega, three, by omega,
      number _ (by omega), number _ (by omega), number _ (by omega)⟩
    exact ⟨_, _, rfl, .three opens next whole⟩
  · obtain ⟨opens, next, last, whole⟩ := (four_iff _ _ _ _ code).mpr ⟨by omega, by omega,
      number _ (by omega), number _ (by omega), number _ (by omega), number _ (by omega)⟩
    exact ⟨_, _, rfl, .four opens next last whole⟩

/-- What spells a code are the bytes of its character. -/
theorem encode_of_spells {first : UInt8} {code : Nat} {more : Bytes}
    (spells : Spells first code more) :
    (Char.ofNat code).toNat = code ∧ String.utf8EncodeChar (Char.ofNat code) = first :: more := by
  -- What is spelled is never a surrogate, so there is a character for it.
  have valid (ordinary : code < 0xD800 ∨ 0xDFFF < code ∧ code < 0x110000) :
      (Char.ofNat code).toNat = code := by
    rw [Char.ofNat, dif_pos ordinary]
    rfl
  cases spells with
  | one short whole =>
    have same := valid (by omega)
    refine ⟨same, ?_⟩
    rw [utf8EncodeChar_eq, same]
    simp only
    rw [if_pos (by omega), (ofNat_eq_iff (by omega)).mpr whole.symm]
  | two opens whole =>
    -- In each form, the bounds of the code tell how many bytes it is written in, and the bytes are
    -- those of the form.
    obtain ⟨long, short, head, next⟩ := (two_iff _ _ code).mp ⟨opens, whole⟩
    have same := valid (by omega)
    refine ⟨same, ?_⟩
    rw [utf8EncodeChar_eq, same]
    simp only
    rw [if_neg (by omega), if_pos short, (ofNat_eq_iff (by omega)).mpr head,
      (ofNat_eq_iff (by omega)).mpr next]
  | three opens next whole =>
    obtain ⟨long, short, ordinary, head, second, last⟩ :=
      (three_iff _ _ _ code).mp ⟨opens, next, whole⟩
    have same := valid (by omega)
    refine ⟨same, ?_⟩
    rw [utf8EncodeChar_eq, same]
    simp only
    rw [if_neg (by omega), if_neg (by omega), if_pos short, (ofNat_eq_iff (by omega)).mpr head,
      (ofNat_eq_iff (by omega)).mpr second, (ofNat_eq_iff (by omega)).mpr last]
  | four opens next last whole =>
    obtain ⟨long, short, head, second, third, fourth⟩ :=
      (four_iff _ _ _ _ code).mp ⟨opens, next, last, whole⟩
    have same := valid (by omega)
    refine ⟨same, ?_⟩
    rw [utf8EncodeChar_eq, same]
    simp only
    rw [if_neg (by omega), if_neg (by omega), if_neg (by omega),
      (ofNat_eq_iff (by omega)).mpr head, (ofNat_eq_iff (by omega)).mpr second,
      (ofNat_eq_iff (by omega)).mpr third, (ofNat_eq_iff (by omega)).mpr fourth]

/-- The character that bytes begin with is read, and nothing of what stands behind it. -/
theorem readOne_encode (char : Char) :
    ∃ first more, String.utf8EncodeChar char = first :: more ∧
      ∀ rest, readOne first (more ++ rest) = (some char, more.length) := by
  -- The bytes of a character spell it, and what is spelled is read.
  obtain ⟨first, more, bytes, spells⟩ := spells_encode char
  refine ⟨first, more, bytes, fun rest => ?_⟩
  rw [readOne_of_spells spells, Char.ofNat_toNat]

/-- A character that is read is written as the bytes that were used for it. -/
theorem encode_of_readOne {first : UInt8} {rest : Bytes} {char : Char} {used : Nat}
    (read : readOne first rest = (some char, used)) :
    first :: rest = String.utf8EncodeChar char ++ rest.drop used := by
  -- What was read was spelled by its bytes, and there is only one way to spell a character.
  obtain ⟨more, code, split, spells, rfl⟩ := spells_of_readOne read
  rw [(encode_of_spells spells).2, List.cons_append, ← split]

/-- The bytes of some characters are read as these characters. -/
theorem chars?_encode (chars : List Char) :
    chars? (chars.flatMap String.utf8EncodeChar) = some chars := by
  induction chars with
  | nil => rw [List.flatMap_nil, chars?]
  | cons char later ih =>
    obtain ⟨first, more, bytes, read⟩ := readOne_encode char
    -- The first character uses its own bytes up, and the others are read behind them.
    rw [List.flatMap_cons, bytes, List.cons_append, chars?, read, List.drop_left, ih]
    rfl

/-- Bytes are read as characters exactly if they are the bytes of these. -/
theorem chars?_eq_some_iff {bytes : Bytes} {chars : List Char} :
    chars? bytes = some chars ↔ bytes = chars.flatMap String.utf8EncodeChar := by
  -- By the recursion of the reading, one character after the other.
  refine ⟨fun read => ?_, fun same => same ▸ chars?_encode chars⟩
  fun_induction chars? bytes generalizing chars with
  | case1 =>
    obtain rfl := Option.some_inj.mp read
    rfl
  | case2 first rest ih =>
    obtain ⟨char, head, later⟩ := Option.bind_eq_some_iff.mp read
    obtain ⟨others, behind, whole⟩ := Option.bind_eq_some_iff.mp later
    obtain rfl := Option.some_inj.mp whole
    -- What was used for the first character are its bytes, and the rest is read as the others.
    have used : readOne first rest = (some char, (readOne first rest).2) := Prod.ext head rfl
    rw [List.flatMap_cons, ← ih behind]
    exact encode_of_readOne used

/-- The characters of well-formed bytes are those that a lossy reading gives. -/
theorem lossyChars_encode (chars : List Char) :
    lossyChars (chars.flatMap String.utf8EncodeChar) = chars := by
  -- Each character is read back in front of those behind it.
  induction chars with
  | nil => rw [List.flatMap_nil, lossyChars]
  | cons char later ih =>
    obtain ⟨first, more, bytes, read⟩ := readOne_encode char
    rw [List.flatMap_cons, bytes, List.cons_append, lossyChars, read, List.drop_left, ih]
    rfl

/-- What a first byte asks for is one to three bytes more, and none of them is a short character. -/
theorem lead_of_lead? {first : UInt8} {lead : Lead} (found : lead? first = some lead) :
    (lead.more = 1 ∨ lead.more = 2 ∨ lead.more = 3) ∧ 0x80 ≤ lead.low := by
  -- Each row of the table of first bytes names how many follow and a lowest second byte.
  revert found
  rw [lead?]
  split_ifs
  all_goals
    rintro ⟨⟩
  all_goals decide

/-- No more bytes are used than there are. -/
theorem readOne_used_le (first : UInt8) (rest : Bytes) : (readOne first rest).2 ≤ rest.length := by
  -- Each way to read a character uses bytes that are there.
  fun_cases readOne first rest
  all_goals simp

/-- A short character breaks off what it stands behind, as the end of the bytes does. -/
theorem readOne_append_short {byte : UInt8} (short : byte < 0x80) (first : UInt8)
    (rest after : Bytes) : readOne first (rest ++ byte :: after) = readOne first rest := by
  -- A short byte neither goes on nor opens a longer character.
  have ends : isContinuation byte = false := by
    simp only [isContinuation, Bool.and_eq_false_iff, decide_eq_false_iff_not, UInt8.not_le]
    exact .inl short
  unfold readOne
  split
  · rfl
  · cases found : lead? first with
    | none => rfl
    | some lead =>
      obtain ⟨count, low⟩ := lead_of_lead? found
      have outside : ¬ lead.low ≤ byte := fun within =>
        absurd (UInt8.le_trans low within) (UInt8.not_le.mpr short)
      -- The byte is among those looked at only where fewer than three stand before it.
      match rest with
      | [] => simp [outside]
      | [_] | [_, _] | _ :: _ :: _ :: _ =>
        rcases count with count | count | count <;> simp [count, ends]

/-- A short character is read apart from what stands before it. -/
theorem lossyChars_append_short {byte : UInt8} (short : byte < 0x80) (before after : Bytes) :
    lossyChars (before ++ byte :: after) =
      lossyChars before ++ Char.ofNat byte.toNat :: lossyChars after := by
  fun_induction lossyChars before with
  | case1 =>
    have alone : readOne byte after = (some (Char.ofNat byte.toNat), 0) := by
      unfold readOne
      rw [if_pos short]
    rw [List.nil_append, lossyChars, alone]
    rfl
  | case2 first rest ih =>
    -- The first character is read as before, and what it leaves still ends in front of the byte.
    rw [List.cons_append, lossyChars, readOne_append_short short,
      List.drop_append_of_le_length (readOne_used_le first rest), ih, List.cons_append]

/-- A text is read apart from what stands before and behind a short character in it. -/
theorem lossy_append_short {byte : UInt8} (short : byte < 0x80) (before after : Bytes) :
    lossy (before ++ byte :: after) =
      lossy before ++ String.singleton (Char.ofNat byte.toNat) ++ lossy after := by
  -- This is the law on characters, put together to texts again.
  apply String.toList_inj.mp
  simp [lossy, lossyChars_append_short short]

/-- Every character of a lossy reading stands for its bytes there, unless it is a replacement. -/
theorem encode_subset_of_mem_lossyChars {bytes : Bytes} {char : Char}
    (among : char ∈ lossyChars bytes) (kept : char ≠ replacement) :
    String.utf8EncodeChar char ⊆ bytes := by
  fun_induction lossyChars bytes with
  | case1 => cases among
  | case2 first rest ih =>
    rcases List.mem_cons.mp among with rfl | later
    · -- The first character is either one that was read, from its bytes, or a replacement.
      cases read : (readOne first rest).1 with
      | none => exact absurd (by rw [read]; rfl) kept
      | some char =>
        rw [encode_of_readOne (Prod.ext read rfl)]
        exact List.subset_append_left _ _
    · exact List.Subset.trans (ih later)
        (List.Subset.trans (List.drop_subset _ _) (List.subset_cons_self _ _))

/-- Bytes are read as a text exactly if they are its bytes. -/
theorem text?_eq_some_iff {bytes : Bytes} {text : String} :
    text? bytes = some text ↔ bytes = utf8 text := by
  -- A text is its characters, and their bytes are the only ones that are read as them.
  rw [text?, utf8, ← chars?_eq_some_iff, Option.map_eq_some_iff]
  constructor
  · rintro ⟨chars, read, rfl⟩
    rw [read, String.toList_ofList]
  · intro read
    exact ⟨text.toList, read, String.ofList_toList⟩

/-- A text is read back from its bytes. -/
@[simp]
theorem text?_utf8 (text : String) : text? (utf8 text) = some text := text?_eq_some_iff.mpr rfl

/-- Bytes are read as no text exactly if they are those of none. -/
theorem text?_eq_none_iff {bytes : Bytes} :
    text? bytes = none ↔ ¬ ∃ text, bytes = utf8 text := by
  -- Bytes that are read at all are those of what they are read as.
  simp only [Option.eq_none_iff_forall_ne_some, ne_eq, text?_eq_some_iff, not_exists]

/-- A lossy reading changes nothing in a text. -/
theorem lossy_utf8 (text : String) : lossy (utf8 text) = text := by
  -- No byte of a text is replaced.
  rw [lossy, utf8, lossyChars_encode, String.ofList_toList]

end Utf8

/-- Different texts have different bytes. -/
theorem utf8_inj {text other : String} : utf8 text = utf8 other ↔ text = other := by
  -- A text is read back from its bytes, whatever its characters are.
  refine ⟨fun same => ?_, congrArg utf8⟩
  rw [← Utf8.lossy_utf8 text, same, Utf8.lossy_utf8]

/-- Only the empty text has no bytes. -/
theorem utf8_eq_nil_iff {text : String} : utf8 text = [] ↔ text = "" := by
  -- The empty text has no bytes, and no other text has the same ones.
  rw [← utf8_inj]
  rfl

end Launcher
