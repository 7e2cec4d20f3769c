import Launcher.Text.Hexadecimal
import Launcher.Text.Literal

/-! Reading quoted literals, alone or in a bracketed list. -/

namespace Launcher.Literal

/-- The character of a one-letter escape. -/
def letterEscape? (char : Char) : Option Char :=
  match char with
  | '"' => some '"'
  | '\\' => some '\\'
  | '0' => some '\x00'
  | 't' => some '\t'
  | 'n' => some '\n'
  | 'r' => some '\r'
  | _ => none

/-- Where reading stands inside a literal. -/
inductive Reading where
  /-- Between two characters. -/
  | between
  /-- Behind a backslash. -/
  | escape
  /-- Before the brace of a code. -/
  | brace
  /-- Inside the braces of a code, with the number of digits so far and their value. -/
  | code (digits value : Nat)
  deriving DecidableEq, Repr

/-- Reads the rest of a literal behind its first quote, and gives what follows it.

A code has one to six digits, and there is a character for it. -/
def readBody : Reading → List Char → Option (List Char × List Char)
  | _, [] => none
  | .between, char :: rest =>
    if char = '"' then some ([], rest)
    else if char = '\\' then readBody .escape rest
    else (readBody .between rest).map fun (text, after) => (char :: text, after)
  | .escape, char :: rest =>
    if char = 'u' then readBody .brace rest
    else
      match letterEscape? char with
      | some escaped => (readBody .between rest).map fun (text, after) => (escaped :: text, after)
      | none => none
  | .brace, char :: rest => if char = '{' then readBody (.code 0 0) rest else none
  | .code digits value, char :: rest =>
    if char = '}' then
      if 0 < digits ∧ digits ≤ 6 ∧ value.isValidChar then
        (readBody .between rest).map fun (text, after) => (Char.ofNat value :: text, after)
      else none
    else
      match Hexadecimal.valueOf? char with
      | some digit => readBody (.code (digits + 1) (value * 16 + digit)) rest
      | none => none

/-- Reads literals with commas between them up to a closing bracket, within a number of steps. -/
def readItems (fuel : Nat) (text : List Char) : Option (List String × List Char) :=
  match fuel, text with
  | fuel + 1, '"' :: rest =>
    match readBody .between rest with
    | some (text, ']' :: after) => some ([String.ofList text], after)
    | some (text, ',' :: ' ' :: after) =>
      (readItems fuel after).map fun (texts, after) => (String.ofList text :: texts, after)
    | _ => none
  | _, _ => none

/-- The texts in a bracketed list of literals, if it is one and nothing more. -/
def readList? (text : String) : Option (List String) :=
  match text.toList with
  | ['[', ']'] => some []
  | '[' :: rest =>
    match readItems rest.length rest with
    | some (texts, []) => some texts
    | _ => none
  | _ => none

end Launcher.Literal
