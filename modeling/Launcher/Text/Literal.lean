import Launcher.Text.Printable

/-! Quoted literals: a text on one line, between double quotes, that can be read back. -/

namespace Launcher.Literal

/-- The spelling of one character inside a literal. -/
def escape (char : Char) : List Char :=
  match char with
  | '"' => ['\\', '"']
  | '\\' => ['\\', '\\']
  | '\x00' => ['\\', '0']
  | '\t' => ['\\', 't']
  | '\n' => ['\\', 'n']
  | '\r' => ['\\', 'r']
  | _ =>
    if isPrintable char then [char]
    else ['\\', 'u', '{'] ++ Nat.toDigits 16 char.toNat ++ ['}']

/-- A text between double quotes. -/
def quoteChars (text : List Char) : List Char := '"' :: (text.flatMap escape ++ ['"'])

/-- The literal of a text. -/
def quote (text : String) : String := String.ofList (quoteChars text.toList)

/-- The literals of several texts in brackets. -/
def list (texts : List String) : String := "[" ++ String.intercalate ", " (texts.map quote) ++ "]"

end Launcher.Literal
