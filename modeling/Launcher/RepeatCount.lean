import Launcher.Text.Blank
import Launcher.Text.Decimal

/-! How often a launch is to be repeated, as given in an option. -/

namespace Launcher.RepeatCount

/-- The greatest number of repetitions, the last one of 32 bits. -/
def greatest : Nat := 4294967295

/-- Takes one plus sign off the front of a text. -/
def withoutPlus (text : List Char) : List Char :=
  match text with
  | '+' :: rest => rest
  | _ => text

/-- The count that a text denotes: digits behind an optional plus sign, white space around them.

Zero and numbers past the greatest count are refused. -/
def read? (text : String) : Option Nat :=
  (Decimal.natOfDigits? (withoutPlus (trimBlank text.toList))).filter fun count =>
    1 ≤ count && count ≤ greatest

end Launcher.RepeatCount
