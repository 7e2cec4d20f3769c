import Launcher.Machine.Shell.Builtin

/-! The parameters of a shell: their names in a text, their values, and the marks they bring. -/

namespace Launcher.Shell

open Builtin (Effect)

/-- The place in which text is expanded. -/
inductive Context where
  /-- A word of a command. -/
  | bare
  /-- The value of an assignment. -/
  | assigned
  /-- Between double quotes. -/
  | double
  /-- In lines that a command reads. -/
  | document
  /-- In a sum. -/
  | sum
  deriving DecidableEq, Repr

namespace Context

/-- Whether what is brought by an expansion stays as it is. -/
def isQuoted : Context → Bool
  | .bare | .assigned => false
  | .double | .document | .sum => true

/-- What is open around the text. -/
def outer (context : Context) : List Opened := if context.isQuoted then [.double] else []

/-- The place of a word inside of an expansion. -/
def nested (context : Context) : Context := if context.isQuoted then .double else context

/-- The characters that a backslash takes the meaning from, if not from all of them. -/
def escapable? : Context → Option (List Char)
  | .bare | .assigned => none
  | .double | .sum => some ['$', '`', '"', '\\']
  | .document => some ['$', '`', '\\']

end Context

/-- A text without the line ends behind it. -/
def withoutLineEnds (text : Text) : Text := (text.reverse.dropWhile (· = '\n')).reverse

/-- The script between backquotes, perhaps in double quotes. -/
def unquoteTicks (inDouble : Bool) : Text → Text
  | '\\' :: char :: rest =>
    if ['`', '\\', '$'].contains char || (inDouble && char = '"') then
      char :: unquoteTicks inDouble rest
    else '\\' :: unquoteTicks inDouble (char :: rest)
  | char :: rest => char :: unquoteTicks inDouble rest
  | [] => []

/-- Whether a character names a parameter by itself. -/
def isSpecial (char : Char) : Bool := ['?', '#', '$', '!', '-', '@', '*'].contains char

/-- Whether a character may be part of a name. -/
def isMember (char : Char) : Bool := char.isAlphanum || char = '_'

/-- The name of a parameter at the front of a text; outside of braces, digits stand alone. -/
def nameAt (braced : Bool) (text : Text) : Text :=
  match text with
  | [] => []
  | char :: _ =>
    if isSpecial char then [char]
    else if char.isDigit then if braced then text.takeWhile Char.isDigit else [char]
    else if isMember char then text.takeWhile isMember
    else []

/-- What stands between positional parameters that are put together. -/
def joint (state : State) : Text :=
  match state.valueOf ['I', 'F', 'S'] with
  | none => [' ']
  | some separators => separators.take 1

/-- The value of a parameter or variable. -/
def value? (state : State) (name : Text) : Option Text :=
  match name with
  | ['@'] | ['*'] =>
    if state.parameters.isEmpty then none
    else some (List.intercalate (joint state) state.parameters)
  | ['?'] => some (Decimal.ofNat state.status).toList
  | ['#'] => some (Decimal.ofNat state.parameters.length).toList
  | ['$'] => some (Decimal.ofNat state.process).toList
  | ['!'] => state.jobs.head?.map fun job => (Decimal.ofNat job.1).toList
  | ['-'] => some (Builtin.optionText state)
  | ['0'] => some state.name
  | name =>
    if name.head?.any Char.isDigit then
      match Decimal.natOfDigits? name with
      | some (index + 1) => state.parameters[index]?
      | some 0 => some state.name
      | none => none
    else state.valueOf name

/-- The marks of a text that an expansion brought. -/
def marksOf (quoted : Bool) (text : Text) : List Mark :=
  if quoted then text.map .quoted else text.map .soft

/-- The marks of a parameter whose value a function changes; those of several make a word each. -/
def parameterMarks (state : State) (quoted : Bool) (name : Text) (change : Text → Text) :
    List Mark :=
  if name = ['@'] || (name = ['*'] && !quoted) then
    List.intercalate [.edge] <| state.parameters.map fun parameter =>
      (if quoted then [.present] else []) ++ marksOf quoted (change parameter)
  else
    match value? state name with
    | some value => marksOf quoted (change value)
    | none => []

/-- The text of marks as one word. -/
def joined (state : State) (marks : List Mark) : Text := Mark.joined (joint state) marks

/-- Marks that may separate words wherever they are not quoted. -/
def softened (marks : List Mark) : List Mark :=
  marks.map fun mark =>
    match mark with
    | .plain char => .soft char
    | mark => mark

/-- Complains about a parameter without a value, if that is asked for. -/
def needs (state : State) (name : Text) : Effect Unit := do
  if state.hasFlag 'u' && name ≠ ['@'] && name ≠ ['*'] && (value? state name).isNone then
    throw (name ++ .ofString ": parameter not set")

end Launcher.Shell
