/-! Byte strings, the UTF-8 form of a text, and the text that a byte string reads as. -/

namespace Launcher

/-- A byte string, such as a file name or the output of a child process. -/
abbrev Bytes := List UInt8

/-- The UTF-8 form of a text. -/
def utf8 (text : String) : Bytes := text.toList.flatMap String.utf8EncodeChar

/-- Joining two texts joins their bytes. -/
theorem utf8_append (first second : String) :
    utf8 (first ++ second) = utf8 first ++ utf8 second := by
  simp [utf8]

namespace Utf8

/-- The character that stands for bytes which are no character. -/
def replacement : Char := Char.ofNat 0xFFFD

/-- Whether a byte may continue a character of several bytes. -/
def isContinuation (byte : UInt8) : Bool := 0x80 ≤ byte && byte ≤ 0xBF

/-- What the first byte of a longer character says of it: bytes to follow and
bounds of the next one. -/
structure Lead where
  /-- Number of bytes that follow. -/
  more : Nat
  /-- Least second byte. -/
  low : UInt8
  /-- Greatest second byte. -/
  high : UInt8

/-- The first bytes of longer characters; overlong forms, surrogates and codes past
the last are out. -/
def lead? (byte : UInt8) : Option Lead :=
  if 0xC2 ≤ byte && byte ≤ 0xDF then some ⟨1, 0x80, 0xBF⟩
  else if byte == 0xE0 then some ⟨2, 0xA0, 0xBF⟩
  else if byte == 0xED then some ⟨2, 0x80, 0x9F⟩
  else if 0xE1 ≤ byte && byte ≤ 0xEF then some ⟨2, 0x80, 0xBF⟩
  else if byte == 0xF0 then some ⟨3, 0x90, 0xBF⟩
  else if 0xF1 ≤ byte && byte ≤ 0xF3 then some ⟨3, 0x80, 0xBF⟩
  else if byte == 0xF4 then some ⟨3, 0x80, 0x8F⟩
  else none

/-- Adds the six payload bits of a continuation byte to a code. -/
def extend (code : Nat) (byte : UInt8) : Nat := code * 64 + byte.toNat % 64

/-- The character that starts with a byte, and how many of the bytes behind it were used.

Where the bytes break off, those that could still begin a character are used up together. -/
def readOne (first : UInt8) (rest : Bytes) : Option Char × Nat :=
  if first < 0x80 then (some (Char.ofNat first.toNat), 0)
  else
    match lead? first, rest with
    | none, _ | some _, [] => (none, 0)
    | some lead, second :: later =>
      if !(lead.low ≤ second && second ≤ lead.high) then (none, 0)
      else
        match lead.more, later with
        | 1, _ => (some (Char.ofNat (extend (first.toNat % 32) second)), 1)
        | _, [] => (none, 1)
        | 2, third :: _ =>
          if isContinuation third
          then (some (Char.ofNat (extend (extend (first.toNat % 16) second) third)), 2)
          else (none, 1)
        | _, third :: last =>
          if !isContinuation third then (none, 1)
          else
            match last with
            | [] => (none, 2)
            | fourth :: _ =>
              if isContinuation fourth
              then
                let code := extend (extend (extend (first.toNat % 8) second) third) fourth
                (some (Char.ofNat code), 3)
              else (none, 2)

/-- The characters of a byte string, each longest broken start replaced by one character. -/
def lossyChars : Bytes → List Char
  | [] => []
  | first :: rest =>
    (readOne first rest).1.getD replacement :: lossyChars (rest.drop (readOne first rest).2)
termination_by bytes => bytes.length
decreasing_by simp only [List.length_cons, List.length_drop]; omega

/-- The characters of a byte string, if all of it is well-formed UTF-8. -/
def chars? : Bytes → Option (List Char)
  | [] => some []
  | first :: rest => do
    let char ← (readOne first rest).1
    let later ← chars? (rest.drop (readOne first rest).2)
    some (char :: later)
termination_by bytes => bytes.length
decreasing_by simp only [List.length_cons, List.length_drop]; omega

/-- The characters up to the first byte that is no part of one, and the bytes from there on. -/
def splitValid : Bytes → List Char × Bytes
  | [] => ([], [])
  | first :: rest =>
    match (readOne first rest).1 with
    | none => ([], first :: rest)
    | some char =>
      let (chars, invalid) := splitValid (rest.drop (readOne first rest).2)
      (char :: chars, invalid)
termination_by bytes => bytes.length
decreasing_by simp only [List.length_cons, List.length_drop]; omega

/-- The text of a byte string, with what is no UTF-8 replaced. -/
def lossy (bytes : Bytes) : String := String.ofList (lossyChars bytes)

/-- The text of a byte string that is well-formed UTF-8. -/
def text? (bytes : Bytes) : Option String := (chars? bytes).map String.ofList

end Utf8

end Launcher
