/-! Shell words: a text written so that a shell reads it as one word. -/

namespace Launcher.Word

/-- Whether a character needs no quotes in a shell word. -/
def isBare (char : Char) : Bool := char.isAlphanum || ['-', '_', '.', '/', ':', '='].contains char

/-- A character inside single quotes; a single quote leaves them and stands in double quotes. -/
def quoteChar (char : Char) : List Char :=
  if char = '\'' then ['\'', '"', '\'', '"', '\''] else [char]

/-- A text as one shell word, in single quotes unless all of it is bare. -/
def quoteChars (text : List Char) : List Char :=
  if text.isEmpty then ['\'', '\'']
  else if text.all isBare then text
  else '\'' :: (text.flatMap quoteChar ++ ['\''])

/-- A text as one shell word. -/
def quote (text : String) : String := String.ofList (quoteChars text.toList)

/-- Texts as shell words with one space between them. -/
def join (texts : List String) : String := String.intercalate " " (texts.map quote)

end Launcher.Word
