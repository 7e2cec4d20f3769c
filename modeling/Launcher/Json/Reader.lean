import Launcher.Json.Value
import Launcher.Text.Hexadecimal

/-! Reading JSON text with exact whole numbers; numbers with a fraction or an
exponent are refused. -/

namespace Launcher.Json

/-- A text without the blanks in front of it. -/
def skipBlanks (text : List Char) : List Char :=
  text.dropWhile fun char => char = ' ' || char = '\t' || char = '\n' || char = '\r'

/-- The code that four hexadecimal digits denote. -/
def codeUnit? (a b c d : Char) : Option Nat := do
  let a ← Hexadecimal.valueOf? a
  let b ← Hexadecimal.valueOf? b
  let c ← Hexadecimal.valueOf? c
  let d ← Hexadecimal.valueOf? d
  return ((a * 16 + b) * 16 + c) * 16 + d

/-- The character of a one-letter escape. -/
def letterEscape? (char : Char) : Option Char :=
  match char with
  | '"' => some '"'
  | '\\' => some '\\'
  | '/' => some '/'
  | 'b' => some '\x08'
  | 'f' => some '\x0c'
  | 'n' => some '\n'
  | 'r' => some '\r'
  | 't' => some '\t'
  | _ => none

/-- Puts a character in front of what was read. -/
def withChar (char : Char) (later : Option (List Char × List Char)) :
    Option (List Char × List Char) :=
  later.map fun (text, rest) => (char :: text, rest)

/-- Reads the rest of a string behind its first quote, and gives what follows it.

Codes past sixteen bits are spelled as a pair; a half of such a pair alone is refused. -/
def readString : List Char → Option (List Char × List Char)
  | '"' :: rest => some ([], rest)
  | '\\' :: 'u' :: a :: b :: c :: d :: rest =>
    match codeUnit? a b c d with
    | none => none
    | some code =>
      if 0xD800 ≤ code && code < 0xDC00 then
        match rest with
        | '\\' :: 'u' :: e :: f :: g :: h :: later =>
          match codeUnit? e f g h with
          | none => none
          | some low =>
            if 0xDC00 ≤ low && low < 0xE000 then
              withChar (Char.ofNat (0x10000 + (code - 0xD800) * 0x400 + (low - 0xDC00)))
                (readString later)
            else none
        | _ => none
      else if 0xDC00 ≤ code && code < 0xE000 then none
      else withChar (Char.ofNat code) (readString rest)
  | '\\' :: char :: rest =>
    match letterEscape? char with
    | some escaped => withChar escaped (readString rest)
    | none => none
  | char :: rest => if char.toNat < 0x20 then none else withChar char (readString rest)
  | [] => none

/-- Reads the digits of a whole number; a zero in front of other digits is refused. -/
def readDigits (text : List Char) : Option (Nat × List Char) :=
  let digits := text.takeWhile Char.isDigit
  let rest := text.dropWhile Char.isDigit
  if digits.head? = some '0' && digits.length > 1 then none
  else if rest.head? = some '.' || rest.head? = some 'e' || rest.head? = some 'E' then none
  else (Decimal.natOfDigits? digits).map fun number => (number, rest)

/-- Reads a whole number. -/
def readInt (text : List Char) : Option (Int × List Char) :=
  match text with
  | '-' :: rest => (readDigits rest).map fun (number, rest) => (-(number : Int), rest)
  | text => (readDigits text).map fun (number, rest) => ((number : Int), rest)

mutual

/-- Reads a value and gives what follows it, within a number of steps. -/
def readValue (fuel : Nat) (text : List Char) : Option (Json × List Char) :=
  match fuel with
  | 0 => none
  | fuel + 1 =>
    match skipBlanks text with
    | 'n' :: 'u' :: 'l' :: 'l' :: rest => some (.null, rest)
    | 't' :: 'r' :: 'u' :: 'e' :: rest => some (.bool true, rest)
    | 'f' :: 'a' :: 'l' :: 's' :: 'e' :: rest => some (.bool false, rest)
    | '"' :: rest => (readString rest).map fun (text, rest) => (.str (String.ofList text), rest)
    | '[' :: rest =>
      match skipBlanks rest with
      | ']' :: rest => some (.arr [], rest)
      | rest => (readItems fuel rest).map fun (items, rest) => (.arr items, rest)
    | '{' :: rest =>
      match skipBlanks rest with
      | '}' :: rest => some (.obj [], rest)
      | rest => (readMembers fuel rest).map fun (members, rest) => (.obj members, rest)
    | text => (readInt text).map fun (value, rest) => (.int value, rest)

/-- Reads the items of a list up to its closing bracket. -/
def readItems (fuel : Nat) (text : List Char) : Option (List Json × List Char) :=
  match fuel with
  | 0 => none
  | fuel + 1 =>
    match readValue fuel text with
    | none => none
    | some (item, rest) =>
      match skipBlanks rest with
      | ']' :: rest => some ([item], rest)
      | ',' :: rest => (readItems fuel rest).map fun (items, rest) => (item :: items, rest)
      | _ => none

/-- Reads the members of an object up to its closing brace. -/
def readMembers (fuel : Nat) (text : List Char) : Option (List (String × Json) × List Char) :=
  match fuel with
  | 0 => none
  | fuel + 1 =>
    match skipBlanks text with
    | '"' :: rest =>
      match readString rest with
      | none => none
      | some (name, rest) =>
        match skipBlanks rest with
        | ':' :: rest =>
          match readValue fuel rest with
          | none => none
          | some (value, rest) =>
            let member := (String.ofList name, value)
            match skipBlanks rest with
            | '}' :: rest => some ([member], rest)
            | ',' :: rest =>
              (readMembers fuel rest).map fun (members, rest) => (member :: members, rest)
            | _ => none
        | _ => none
    | _ => none

end

/-- The value that a text denotes, if it denotes one and nothing more. -/
def read? (text : String) : Option Json :=
  -- A character starts two steps at most: an item of a list and its value.
  match readValue (2 * text.length + 2) text.toList with
  | some (value, rest) => if (skipBlanks rest).isEmpty then some value else none
  | none => none

/-- The value of a member of an object. -/
def member? (value : Json) (name : String) : Option Json :=
  match value with
  | .obj members => members.lookup name
  | .null | .bool _ | .int _ | .str _ | .arr _ => none

end Launcher.Json
