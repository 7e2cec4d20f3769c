/-! Hexadecimal digits. -/

namespace Launcher.Hexadecimal

/-- The value of a hexadecimal digit, in lower or upper case. -/
def valueOf? (char : Char) : Option Nat :=
  if char.isDigit then some (char.toNat - '0'.toNat)
  else if 'a' ≤ char && char ≤ 'f' then some (char.toNat - 'a'.toNat + 10)
  else if 'A' ≤ char && char ≤ 'F' then some (char.toNat - 'A'.toNat + 10)
  else none

end Launcher.Hexadecimal
