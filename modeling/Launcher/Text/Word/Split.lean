import Launcher.Text.Word

/-! How a shell splits a line into words. -/

namespace Launcher.Word

/-- How a character of a line is quoted. -/
inductive Quoting where
  /-- Not at all. -/
  | bare
  /-- By single quotes. -/
  | single
  /-- By double quotes. -/
  | double
  deriving DecidableEq, Repr

/-- The characters that mean more to a shell than themselves, where nothing quotes them. -/
def special : List Char :=
  ['|', '&', ';', '<', '>', '(', ')', '$', '`', '\\', '*', '?', '[', ']', '#', '~', '!', '{', '}',
    '\n']

/-- The characters that mean more to a shell than themselves inside double quotes. -/
def specialInDouble : List Char := ['$', '`', '\\', '!']

/-- Splits a line into words, given how its next character is quoted and the word begun so far.

Blanks that nothing quotes end a word, quotes are dropped, and what they enclose is taken as it is.
A line that asks a shell for more than words, or leaves a quote open, is refused. -/
def splitFrom : Quoting → Option (List Char) → List Char → Option (List (List Char))
  | .bare, word, [] => some word.toList
  | .single, _, [] | .double, _, [] => none
  | .bare, word, char :: rest =>
    if char = ' ' || char = '\t' then (splitFrom .bare none rest).map (word.toList ++ ·)
    else if char = '\'' then splitFrom .single (some (word.getD [])) rest
    else if char = '"' then splitFrom .double (some (word.getD [])) rest
    else if special.contains char then none
    else splitFrom .bare (some (word.getD [] ++ [char])) rest
  | .single, word, char :: rest =>
    if char = '\'' then splitFrom .bare word rest
    else splitFrom .single (some (word.getD [] ++ [char])) rest
  | .double, word, char :: rest =>
    if char = '"' then splitFrom .bare word rest
    else if specialInDouble.contains char then none
    else splitFrom .double (some (word.getD [] ++ [char])) rest

/-- The words of a line that asks a shell for nothing else. -/
def split? (line : String) : Option (List String) :=
  (splitFrom .bare none line.toList).map fun words => words.map String.ofList

/-- The characters of a line apart from the quotes themselves, each with how it is quoted. -/
def marked : Quoting → List Char → List (Quoting × Char)
  | _, [] => []
  | .bare, char :: rest =>
    if char = '\'' then marked .single rest
    else if char = '"' then marked .double rest
    else (.bare, char) :: marked .bare rest
  | .single, char :: rest =>
    if char = '\'' then marked .bare rest else (.single, char) :: marked .single rest
  | .double, char :: rest =>
    if char = '"' then marked .bare rest else (.double, char) :: marked .double rest

end Launcher.Word
