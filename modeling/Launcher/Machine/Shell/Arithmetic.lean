import Launcher.Machine.Shell.Command
import Launcher.Text.Hexadecimal

/-! Sums in a shell script: whole numbers of 64 bits. -/

namespace Launcher.Shell.Arithmetic

/-- The number of values that 64 bits can hold. -/
def modulus : Nat := 18446744073709551616

/-- The greatest number of 64 bits. -/
def greatest : Int := 9223372036854775807

/-- The least number of 64 bits. -/
def least : Int := -9223372036854775808

/-- Brings a number into 64 bits. -/
def wrap (value : Int) : Int := Int.bmod value modulus

/-- Whether a character is white space in a number. -/
def isSpace (char : Char) : Bool := [' ', '\t', '\n', '\x0b', '\x0c', '\r'].contains char

/-- Whether a character is a digit in a base, eight, ten or sixteen. -/
def isDigitIn (base : Nat) (char : Char) : Bool :=
  (Hexadecimal.valueOf? char).any (· < base)

/-- The number at the front of a text in a base, and what follows it. -/
def digits (base : Nat) (text : Text) : Nat × Text :=
  let digits := text.takeWhile (isDigitIn base)
  let values := digits.filterMap Hexadecimal.valueOf?
  (values.foldl (fun total value => total * base + value) 0, text.drop digits.length)

/-- The number at the front of a text in decimal, octal or hexadecimal notation,
and what follows it. -/
def number (text : Text) : Nat × Text :=
  match text with
  | '0' :: mark :: digit :: rest =>
    if (mark = 'x' || mark = 'X') && isDigitIn 16 digit then digits 16 (digit :: rest)
    else digits 8 text
  | '0' :: _ => digits 8 text
  | _ => digits 10 text

/-- The number at the front of a text behind white space and a sign, read by a function,
and what follows. -/
def signed? (read : Text → Nat × Text) (text : Text) : Option (Int × Text) :=
  let text := text.dropWhile isSpace
  let negative := text.head? = some '-'
  let text := if negative || text.head? = some '+' then text.tail else text
  if text.head?.any Char.isDigit then
    let (value, rest) := read text
    some (if negative then -(value : Int) else value, rest)
  else none

/-- Whether a number has 64 bits. -/
def fits (value : Int) : Bool := least ≤ value && value ≤ greatest

/-- A whole number in decimal notation, with white space around it. -/
def decimal? (text : Text) : Option Int :=
  match signed? (digits 10) text with
  | some (value, rest) => if fits value && rest.all isSpace then some value else none
  | none => none

/-- A count in decimal notation, with white space around it, of at most 31 bits. -/
def count? (text : Text) : Option Nat :=
  match decimal? text with
  | some (.ofNat value) => if value < 2147483648 then some value else none
  | _ => none

/-- The value of a variable; nothing at all is zero. -/
def value? (text : Text) : Option Int :=
  if text.all isSpace then some 0
  else
    match signed? number text with
    | some (value, rest) => if fits value && rest.all isSpace then some value else none
    | none => none

/-- A piece of a sum. -/
inductive Piece where
  /-- A number. -/
  | number (value : Int)
  /-- A variable. -/
  | name (text : Text)
  /-- An operator or a parenthesis. -/
  | operator (text : String)
  /-- A character that has no meaning in a sum. -/
  | other
  deriving DecidableEq, Repr

/-- The operators, longer ones before those that they start with. -/
def operators : List Text :=
  ["<<=", ">>=", "<<", ">>", "<=", ">=", "==", "!=", "&&", "||", "+=", "-=", "*=", "/=", "%=", "&=",
    "|=", "^=", "=", "+", "-", "*", "/", "%", "<", ">", "&", "|", "^", "!", "~", "(", ")", "?",
    ":"].map String.toList

/-- The pieces of a sum. -/
def pieces (fuel : Nat) (text : Text) : List Piece :=
  match fuel, text with
  | 0, _ | _, [] => []
  | fuel + 1, char :: rest =>
    let isMember (char : Char) : Bool := char.isAlphanum || char = '_'
    if char = ' ' || char = '\t' || char = '\n' then pieces fuel rest
    else if char.isDigit then
      let (value, rest) := number text
      .number (min value greatest) :: pieces fuel rest
    else if isMember char then
      .name (text.takeWhile isMember) :: pieces fuel (text.dropWhile isMember)
    else
      match operators.find? (·.isPrefixOf text) with
      | some operator =>
        .operator (String.ofList operator) :: pieces fuel (text.drop operator.length)
      | none => .other :: pieces fuel rest

/-- A sum. -/
inductive Sum where
  /-- A number. -/
  | number (value : Int)
  /-- The value of a variable. -/
  | named (name : Text)
  /-- An operation on one sum. -/
  | unary (operator : String) (operand : Sum)
  /-- An operation on two sums. -/
  | binary (operator : String) (first second : Sum)
  /-- One of two sums, chosen by a third one. -/
  | conditional (condition yes no : Sum)
  /-- A new value for a variable, by an operation on its old one if there is one. -/
  | assign (name : Text) (operator : Option String) (value : Sum)
  deriving Repr

/-- How strongly an operator binds. -/
def strength (operator : String) : Option Nat :=
  match operator with
  | "||" => some 1
  | "&&" => some 2
  | "|" => some 3
  | "^" => some 4
  | "&" => some 5
  | "==" | "!=" => some 6
  | "<" | "<=" | ">" | ">=" => some 7
  | "<<" | ">>" => some 8
  | "+" | "-" => some 9
  | "*" | "/" | "%" => some 10
  | _ => none

/-- The operation of an assignment: none for a plain one, and nothing at all for
another operator. -/
def assigning? (operator : String) : Option (Option String) :=
  match operator with
  | "=" => some none
  | "<<=" | ">>=" | "+=" | "-=" | "*=" | "/=" | "%=" | "&=" | "|=" | "^=" =>
    some (some (operator.dropEnd 1).toString)
  | _ => none

mutual

/-- Reads a sum, perhaps one that is assigned to a variable. -/
def readSum (fuel : Nat) (pieces : List Piece) : Except String (Sum × List Piece) := do
  match fuel with
  | 0 => throw "expecting primary"
  | fuel + 1 =>
    match pieces with
    | .name name :: .operator operator :: rest =>
      match assigning? operator with
      | some operation =>
        let (value, rest) ← readSum fuel rest
        return (.assign name operation value, rest)
      | none => readChoice fuel pieces
    | pieces => readChoice fuel pieces

/-- Reads a sum, perhaps one that chooses between two others. -/
def readChoice (fuel : Nat) (pieces : List Piece) : Except String (Sum × List Piece) := do
  match fuel with
  | 0 => throw "expecting primary"
  | fuel + 1 =>
    let (condition, rest) ← readBinary fuel 1 pieces
    match rest with
    | .operator "?" :: rest =>
      let (yes, rest) ← readSum fuel rest
      match rest with
      | .operator ":" :: rest =>
        let (no, rest) ← readChoice fuel rest
        return (.conditional condition yes no, rest)
      | _ => throw "expecting ':'"
    | rest => return (condition, rest)

/-- Reads a sum made of operators that bind at least so strongly. -/
def readBinary (fuel least : Nat) (pieces : List Piece) : Except String (Sum × List Piece) := do
  match fuel with
  | 0 => throw "expecting primary"
  | fuel + 1 =>
    let (first, rest) ← readOperand fuel pieces
    extendBy fuel least first rest

/-- Goes on with the operators behind a sum. -/
def extendBy (fuel least : Nat) (first : Sum) (pieces : List Piece) :
    Except String (Sum × List Piece) := do
  match fuel with
  | 0 => return (first, pieces)
  | fuel + 1 =>
    match pieces with
    | .operator operator :: rest =>
      match strength operator with
      | none => return (first, pieces)
      | some strength =>
        if strength < least then return (first, pieces)
        let (second, rest) ← readBinary fuel (strength + 1) rest
        extendBy fuel least (.binary operator first second) rest
    | pieces => return (first, pieces)

/-- Reads a number, a variable, a sign with its operand or a sum in parentheses. -/
def readOperand (fuel : Nat) (pieces : List Piece) : Except String (Sum × List Piece) := do
  match fuel with
  | 0 => throw "expecting primary"
  | fuel + 1 =>
    match pieces with
    | .number value :: rest => return (.number value, rest)
    | .name name :: rest => return (.named name, rest)
    | .operator "(" :: rest =>
      let (value, rest) ← readSum fuel rest
      match rest with
      | .operator ")" :: rest => return (value, rest)
      | _ => throw "expecting ')'"
    | .operator sign :: rest =>
      if ["-", "+", "!", "~"].contains sign then
        let (operand, rest) ← readOperand fuel rest
        return (.unary sign operand, rest)
      else throw "expecting primary"
    | _ => throw "expecting primary"

end

/-- A truth value as a number. -/
def truth (value : Bool) : Int := if value then 1 else 0

/-- Two numbers as words of 64 bits under an operation on bits. -/
def onBits (operation : BitVec 64 → BitVec 64 → BitVec 64) (first second : Int) : Int :=
  (operation (BitVec.ofInt 64 first) (BitVec.ofInt 64 second)).toInt

/-- The value of an operation on two numbers. -/
def apply (operator : String) (first second : Int) : Except String Int :=
  match operator with
  | "|" => .ok (onBits (· ||| ·) first second)
  | "^" => .ok (onBits (· ^^^ ·) first second)
  | "&" => .ok (onBits (· &&& ·) first second)
  | "==" => .ok (truth (first = second))
  | "!=" => .ok (truth (first ≠ second))
  | "<" => .ok (truth (first < second))
  | "<=" => .ok (truth (first ≤ second))
  | ">" => .ok (truth (first > second))
  | ">=" => .ok (truth (first ≥ second))
  | "<<" => .ok (wrap (first * (1 <<< (second % 64).toNat : Nat)))
  | ">>" => .ok (first.fdiv (1 <<< (second % 64).toNat : Nat))
  | "+" => .ok (wrap (first + second))
  | "-" => .ok (wrap (first - second))
  | "*" => .ok (wrap (first * second))
  | "/" => if second = 0 then .error "division by zero" else .ok (wrap (first.tdiv second))
  | "%" => if second = 0 then .error "division by zero" else .ok (first.tmod second)
  | _ => .error "expecting primary"

/-- Why a sum has no value. -/
inductive Fault where
  /-- It is not well-formed, or cannot be worked out. -/
  | sum (reason : String)
  /-- A variable is no number. -/
  | number (text : Text)
  deriving DecidableEq, Repr

/-- Working out a sum, with what it has assigned to variables so far. -/
abbrev Work (α : Type) := StateT (List (Text × Int)) (Except Fault) α

/-- The value of a variable. -/
def lookup (valueOf : Text → Option Text) (name : Text) : Work Int := do
  match (← get).lookup name with
  | some value => return value
  | none =>
    let text := (valueOf name).getD []
    match value? text with
    | some value => return value
    | none => throw (.number text)

/-- The value of an operation, with its faults told apart from others. -/
def operate (operator : String) (first second : Int) : Work Int :=
  match apply operator first second with
  | .ok value => pure value
  | .error reason => throw (.sum reason)

/-- Works out a sum; what does not count for its value is left alone. -/
def Sum.value (valueOf : Text → Option Text) : Sum → Work Int
  | .number value => pure value
  | .named name => lookup valueOf name
  | .unary operator operand => do
    let value ← operand.value valueOf
    match operator with
    | "-" => return wrap (-value)
    | "!" => return truth (value = 0)
    | "~" => return -value - 1
    | _ => return value
  | .binary "&&" first second => do
    if (← first.value valueOf) = 0 then return 0
    return truth ((← second.value valueOf) ≠ 0)
  | .binary "||" first second => do
    if (← first.value valueOf) ≠ 0 then return 1
    return truth ((← second.value valueOf) ≠ 0)
  | .binary operator first second => do
    let first ← first.value valueOf
    let second ← second.value valueOf
    operate operator first second
  | .conditional condition yes no => do
    if (← condition.value valueOf) ≠ 0 then yes.value valueOf else no.value valueOf
  | .assign name operator value => do
    let value ← value.value valueOf
    let value ←
      match operator with
      | none => pure value
      | some operator => do operate operator (← lookup valueOf name) value
    modify fun assigned => (name, value) :: assigned
    return value

/-- The value of a sum in which variables stand for numbers, and what it assigns,
the last one first. -/
def evaluate (valueOf : Text → Option Text) (text : Text) :
    Except Fault (Int × List (Text × Int)) := do
  let pieces := pieces (text.length + 1) text
  match readSum (6 * pieces.length + 8) pieces with
  | .error reason => throw (.sum reason)
  | .ok (sum, []) => (sum.value valueOf).run []
  | .ok (_, _ :: _) => throw (.sum "expecting EOF")

end Launcher.Shell.Arithmetic
