import Launcher.Text.Hexadecimal

/-! Search expressions: whether a text is one that can be searched for. -/

namespace Launcher.Expression

/-- What an escape stands for. -/
inductive Escape where
  /-- A single character. -/
  | char (char : Char)
  /-- Any of several characters. -/
  | set
  /-- A place between characters. -/
  | place
  deriving DecidableEq, Repr

/-- The character whose code so many hexadecimal digits give, and what follows. -/
def coded? (count : Nat) (text : List Char) : Option (Escape × List Char) := do
  let digits ← (text.take count).mapM Hexadecimal.valueOf?
  let code := digits.foldl (fun total digit => total * 16 + digit) 0
  if digits.length = count && code.isValidChar then some (.char (Char.ofNat code), text.drop count)
  else none

/-- The letters of the general categories of characters. -/
def categories : List Char := "clmnpsz".toList

/-- Reads an escape behind its backslash.

Letters and digits without a meaning are kept for later ones, and word ends
cannot be searched for. -/
def escape? : List Char → Option (Escape × List Char)
  | [] => none
  | char :: rest =>
    match char with
    | 'x' => coded? 2 rest
    | 'u' => coded? 4 rest
    | 'U' => coded? 8 rest
    | 'p' | 'P' =>
      match rest with
      | letter :: rest => if categories.contains letter.toLower then some (.set, rest) else none
      | [] => none
    | 'd' | 'D' | 's' | 'S' | 'w' | 'W' => some (.set, rest)
    | 'A' | 'z' => some (.place, rest)
    | 'a' => some (.char '\x07', rest)
    | 'f' => some (.char '\x0c', rest)
    | 'n' => some (.char '\n', rest)
    | 'r' => some (.char '\r', rest)
    | 't' => some (.char '\t', rest)
    | 'v' => some (.char '\x0b', rest)
    | char =>
      if char.toNat < 0x80 && !char.isAlphanum && char ≠ '<' && char ≠ '>' then
        some (.char char, rest)
      else none

/-- The names of sets inside brackets. -/
def setNames : List String :=
  ["alnum", "alpha", "ascii", "blank", "cntrl", "digit", "graph", "lower", "print", "punct",
    "space", "upper", "word", "xdigit"]

/-- What follows a named set, behind its opening bracket and colon. -/
def namedSet? (text : List Char) : Option (List Char) :=
  let text := if text.head? = some '^' then text.tail else text
  let name := text.takeWhile (· ≠ ':')
  match text.drop name.length with
  | ':' :: ']' :: rest => if setNames.contains (String.ofList name) then some rest else none
  | _ => none

/-- What follows the front of a bracket, where hyphens and a closing bracket mean themselves. -/
def bracketFront (text : List Char) : List Char :=
  let text := if text.head? = some '^' then text.tail else text
  match text with
  | ']' :: rest => rest
  | text => text.dropWhile (· = '-')

/-- Reads one member of a bracket. -/
def member? : List Char → Option (Escape × List Char)
  | '\\' :: rest => escape? rest
  | char :: rest => some (.char char, rest)
  | [] => none

/-- What follows a member of a bracket or a range between two of them. -/
def range? (text : List Char) : Option (List Char) := do
  let (low, rest) ← member? text
  match rest with
  | [] => none
  | '-' :: ']' :: _ | '-' :: '-' :: _ => if low = .place then none else some rest
  | '-' :: rest =>
    match low, ← member? rest with
    | .char low, (.char high, rest) => if low ≤ high then some rest else none
    | _, _ => none
  | rest => if low = .place then none else some rest

/-- What follows so many open brackets, if all of them are closed. -/
def brackets? (fuel depth : Nat) (text : List Char) : Option (List Char) :=
  match fuel, depth with
  | 0, _ => none
  | _, 0 => some text
  | fuel + 1, depth + 1 =>
    match text with
    | ']' :: rest => brackets? fuel depth rest
    | '[' :: rest =>
      let named := if rest.head? = some ':' then namedSet? rest.tail else none
      match named with
      | some rest => brackets? fuel (depth + 1) rest
      | none => brackets? fuel (depth + 2) (bracketFront rest)
    | '&' :: '&' :: rest | '-' :: '-' :: rest | '~' :: '~' :: rest =>
      brackets? fuel (depth + 1) rest
    | text =>
      match range? text with
      | some rest => brackets? fuel (depth + 1) rest
      | none => none

/-- Whether a text can name a group. -/
def isGroupName (text : List Char) : Bool :=
  match text with
  | [] => false
  | first :: rest =>
    (first = '_' || first.isAlpha) &&
      rest.all fun char => char.isAlphanum || ['_', '.', '[', ']'].contains char

/-- Whether letters set and clear options, each at most once. -/
def areFlags (text : List Char) : Bool :=
  let letters := text.filter (· ≠ '-')
  text.count '-' ≤ 1 && text.getLast? ≠ some '-' && letters.Nodup &&
    letters.all fun letter => "imsUuxR".toList.contains letter

/-- What opens behind a parenthesis. -/
inductive Opening where
  /-- A group. -/
  | group
  /-- A group with a name. -/
  | named (name : List Char)
  /-- Nothing: options are set for what follows. -/
  | options
  deriving DecidableEq, Repr

/-- A group with a name, behind the bracket before it. -/
def namedGroup? (text : List Char) : Option (Opening × List Char) :=
  let name := text.takeWhile (· ≠ '>')
  match text.drop name.length with
  | _ :: rest => if isGroupName name then some (.named name, rest) else none
  | [] => none

/-- Reads what opens behind a parenthesis; looking around is not possible. -/
def opening? : List Char → Option (Opening × List Char)
  | '?' :: 'P' :: '<' :: rest | '?' :: '<' :: rest => namedGroup? rest
  | '?' :: rest =>
    let flags := rest.takeWhile fun char => char ≠ ':' && char ≠ ')'
    match rest.drop flags.length with
    | ':' :: rest => if areFlags flags then some (.group, rest) else none
    | ')' :: rest => if areFlags flags && !flags.isEmpty then some (.options, rest) else none
    | _ => none
  | rest => some (.group, rest)

/-- Whether a text goes on well behind groups that are open, of which some have had names.

An operator for repetition needs something to be repeated. -/
def goesOn (fuel depth : Nat) (names : List (List Char)) (repeatable : Bool) (text : List Char) :
    Bool :=
  match fuel, text with
  | 0, _ => false
  | _, [] => depth = 0
  | fuel + 1, char :: rest =>
    match char with
    | '*' | '+' | '?' => repeatable && goesOn fuel depth names true rest
    | '\x7b' => false
    | '|' => goesOn fuel depth names false rest
    | ')' => depth ≠ 0 && goesOn fuel (depth - 1) names true rest
    | '(' =>
      match opening? rest with
      | none => false
      | some (.group, rest) => goesOn fuel (depth + 1) names false rest
      | some (.named name, rest) =>
        !names.contains name && goesOn fuel (depth + 1) (name :: names) false rest
      | some (.options, rest) => goesOn fuel depth names false rest
    | '[' =>
      match brackets? (rest.length + 1) 1 (bracketFront rest) with
      | some rest => goesOn fuel depth names true rest
      | none => false
    | '\\' =>
      match escape? rest with
      | some (_, rest) => goesOn fuel depth names true rest
      | none => false
    | _ => goesOn fuel depth names true rest

/-- Whether a text is a search expression. -/
def isWellFormed (text : List Char) : Bool := goesOn (text.length + 1) 0 [] false text

end Launcher.Expression
