/-! Whole numbers in decimal notation. -/

namespace Launcher.Decimal

/-- The shortest decimal digits of a natural number. -/
def ofNat (number : Nat) : String := String.ofList (Nat.toDigits 10 number)

/-- An integer in decimal, negative ones behind a minus sign. -/
def ofInt : Int → String
  | .ofNat number => ofNat number
  | .negSucc number => "-" ++ ofNat (number + 1)

/-- The number that a non-empty row of ASCII digits denotes, leading zeros allowed. -/
def natOfDigits? (digits : List Char) : Option Nat :=
  if !digits.isEmpty && digits.all Char.isDigit then some (Nat.ofDigitChars 10 digits 0) else none

end Launcher.Decimal
