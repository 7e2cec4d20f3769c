import Launcher.Machine.Shell.Token

/-! Patterns with stars, question marks and brackets. -/

namespace Launcher.Shell

/-- A character of an expanded word and what it may still do there. -/
inductive Mark where
  /-- A character that was written in the open; it may be part of a pattern. -/
  | plain (char : Char)
  /-- A character that was quoted; it only stands for itself. -/
  | quoted (char : Char)
  /-- A character that an expansion brought; it may separate words and be part of a pattern. -/
  | soft (char : Char)
  /-- An end of a word. -/
  | edge
  /-- Quotes, which make a word of nothing. -/
  | present
  deriving DecidableEq, Repr

namespace Mark

/-- The character of a mark. -/
def char? : Mark → Option Char
  | .plain char | .quoted char | .soft char => some char
  | .edge | .present => none

/-- The character of a mark that may be part of a pattern. -/
def special? : Mark → Option Char
  | .plain char | .soft char => some char
  | .quoted _ | .edge | .present => none

/-- The text of marks. -/
def text (marks : List Mark) : Text := marks.filterMap char?

/-- The text of marks as one word, with a separator where words would end. -/
def joined (separator : Text) (marks : List Mark) : Text :=
  marks.flatMap fun mark => if mark = .edge then separator else mark.char?.toList

end Mark

namespace Pattern

/-- Whether a set of characters has a character, if there is a set of that name. -/
def inClass? (name : String) (char : Char) : Option Bool :=
  let isPunctuation := '!' ≤ char && char ≤ '~' && !char.isAlphanum
  match name with
  | "alpha" => some char.isAlpha
  | "digit" => some char.isDigit
  | "alnum" => some char.isAlphanum
  | "upper" => some char.isUpper
  | "lower" => some char.isLower
  | "space" => some ([' ', '\t', '\n', '\x0b', '\x0c', '\r'].contains char)
  | "blank" => some (char = ' ' || char = '\t')
  | "punct" => some isPunctuation
  | "print" => some (' ' ≤ char && char ≤ '~')
  | "graph" => some ('!' ≤ char && char ≤ '~')
  | "cntrl" => some (char < ' ' || char = '\x7f')
  | "xdigit" => some (char.isDigit || ('a' ≤ char.toLower && char.toLower ≤ 'f'))
  | _ => none

/-- Whether a named set at the front, behind its opening bracket, has a character,
and what follows it. -/
def class? (char : Char) (marks : List Mark) : Option (Bool × List Mark) :=
  match marks with
  | [] => none
  | colon :: rest =>
    let name := rest.takeWhile fun mark => mark.special? ≠ some ':'
    match rest.drop name.length with
    | _ :: close :: after =>
      if colon.special? = some ':' && close.special? = some ']' then
        (inClass? (String.ofList (Mark.text name)) char).map fun found => (found, after)
      else none
    | _ => none

/-- Whether a bracket names a character, and what follows it; its first member is never its end. -/
def bracket? (fuel : Nat) (char : Char) (found : Bool) (marks : List Mark) :
    Option (Bool × List Mark) :=
  match fuel, marks with
  | 0, _ | _, [] => none
  | fuel + 1, mark :: rest =>
    let (found, rest) : Bool × List Mark :=
      match if mark.special? = some '[' then class? char rest else none with
      | some (inClass, rest) => (found || inClass, rest)
      | none =>
        match mark.char?, rest with
        | some low, hyphen :: high :: after =>
          if hyphen.special? = some '-' && high.special? ≠ some ']' then
            (found || (low ≤ char && high.char?.all (char ≤ ·)), after)
          else (found || low = char, rest)
        | low, rest => (found || low = some char, rest)
    match rest with
    | [] => none
    | close :: after =>
      if close.special? = some ']' then some (found, after) else bracket? fuel char found rest

/-- Whether a text matches a pattern, within a number of steps. -/
def matchesWithin (fuel : Nat) (pattern : List Mark) (text : Text) : Bool :=
  match fuel with
  | 0 => false
  | fuel + 1 =>
    match pattern with
    | [] => text.isEmpty
    | mark :: rest =>
      match mark.special?, text with
      | some '*', [] => matchesWithin fuel rest []
      | some '*', char :: later =>
        matchesWithin fuel rest (char :: later) || matchesWithin fuel pattern later
      | some '?', _ :: later => matchesWithin fuel rest later
      | some '[', char :: later =>
        let inverted := rest.head?.bind Mark.special? = some '!'
        match bracket? (rest.length + 1) char false (if inverted then rest.tail else rest) with
        | none => char = '[' && matchesWithin fuel rest later
        | some (found, after) => (found ≠ inverted) && matchesWithin fuel after later
      | _, _ =>
        match mark.char?, text with
        | none, text => matchesWithin fuel rest text
        | some wanted, char :: later => wanted = char && matchesWithin fuel rest later
        | some _, [] => false

/-- Whether a text matches a pattern as a whole. -/
def matchesText (pattern : List Mark) (text : Text) : Bool :=
  matchesWithin (pattern.length + text.length + 1) pattern text

/-- Whether marks make a pattern. -/
def isPattern (marks : List Mark) : Bool :=
  marks.any fun mark => mark.special?.any (['*', '?', '['].contains ·)

/-- A text without the shortest or longest front that matches a pattern. -/
def withoutFront (pattern : List Mark) (longest : Bool) (text : Text) : Text :=
  let lengths := List.range (text.length + 1)
  let lengths := if longest then lengths.reverse else lengths
  match lengths.find? fun length => matchesText pattern (text.take length) with
  | some length => text.drop length
  | none => text

/-- A text without the shortest or longest end that matches a pattern. -/
def withoutEnd (pattern : List Mark) (longest : Bool) (text : Text) : Text :=
  let lengths := List.range (text.length + 1)
  let lengths := if longest then lengths else lengths.reverse
  match lengths.find? fun length => matchesText pattern (text.drop length) with
  | some length => text.take length
  | none => text

end Pattern

end Launcher.Shell
