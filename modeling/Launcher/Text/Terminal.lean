/-! Text with commands to a terminal in it, and what is left of it where there is no terminal. -/

namespace Launcher.Terminal

/-- How far a command to a terminal has come. -/
inductive Mode where
  /-- There is no command; characters are shown. -/
  | ground
  /-- The escape character has opened a command. -/
  | escape
  /-- Further characters choose one of the short commands. -/
  | escapeChoice
  /-- A control sequence goes on up to its last letter. -/
  | control
  /-- A device control string has begun. -/
  | device
  /-- The parameters of a device control string go on. -/
  | deviceParameters
  /-- Further characters choose what a device is to do. -/
  | deviceChoice
  /-- A device control string without a meaning goes on. -/
  | deviceIgnored
  /-- A device control string goes on. -/
  | deviceData
  /-- A command to the operating system goes on up to a bell. -/
  | system
  /-- A message of another kind goes on. -/
  | message
  deriving DecidableEq, Repr

namespace Mode

/-- Whether a character lies between two others. -/
def within (low high char : Char) : Bool := low ≤ char && char ≤ high

/-- Whether the bytes of a character contain the one that ends strings for devices. -/
def endsString (char : Char) : Bool := (String.utf8EncodeChar char).contains 0x9C

/-- The mode that a character leads to, if it changes anything. -/
def next? (mode : Mode) (char : Char) : Option Mode :=
  if char = '\x18' || char = '\x1a' then some .ground
  else if char = '\x1b' then some .escape
  else
    match mode with
    | .ground => if char.toNat < 0x80 then none else some .ground
    | .escape =>
      if within ' ' '/' char then some .escapeChoice
      else if char = '[' then some .control
      else if char = ']' then some .system
      else if char = 'P' then some .device
      else if char = 'X' || char = '^' || char = '_' then some .message
      else if within '0' '~' char then some .ground
      else none
    | .escapeChoice => if within '0' '~' char then some .ground else none
    | .control => if within '@' '~' char then some .ground else none
    | .device =>
      if within ' ' '/' char then some .deviceChoice
      else if within '0' '?' char then some .deviceParameters
      else if within '@' '~' char then some .deviceData
      else none
    | .deviceParameters =>
      if within ' ' '/' char then some .deviceChoice
      else if within '<' '?' char then some .deviceIgnored
      else if within '@' '~' char then some .deviceData
      else none
    | .deviceChoice =>
      if within '0' '?' char then some .deviceIgnored
      else if within '@' '~' char then some .deviceData
      else none
    | .deviceIgnored | .deviceData | .message => if endsString char then some .ground else none
    | .system => if char = '\x07' then some .ground else none

/-- The mode behind a character. -/
def after (mode other : Mode) (char : Char) : Mode := (other.next? char).getD mode

/-- Whether a character moves on a page without leaving a mark. -/
def isSpacing (char : Char) : Bool := [' ', '\t', '\n', '\x0c', '\r'].contains char

/-- Whether a character is shown; line ends and the like are so in the midst of most commands. -/
def shows (mode : Mode) (char : Char) : Bool :=
  match mode with
  | .ground => isSpacing char || (' ' < char && char ≠ '\x7f')
  | .escape | .escapeChoice | .control => isSpacing char && char ≠ ' '
  | .device | .deviceParameters | .deviceChoice | .deviceIgnored | .deviceData | .system
  | .message => false

end Mode

/-- The characters that are shown, from a mode on.

While they are being shown they are looked at as if there were no command, even in the midst of
one; that one goes on at the next character that is not shown. -/
def plainFrom (showing : Bool) (mode : Mode) : List Char → List Char
  | [] => []
  | char :: rest =>
    if showing && Mode.ground.shows char then char :: plainFrom true (mode.after .ground char) rest
    else
      let mode := if showing then mode.after .ground char else mode
      if mode.shows char then
        char :: plainFrom true ((mode.after mode char).after .ground char) rest
      else plainFrom false (mode.after mode char) rest

/-- What is shown of a text where there is no terminal to carry out commands. -/
def plain (text : String) : String := String.ofList (plainFrom false .ground text.toList)

/-- A text that a terminal makes stand out. -/
def emphasized (text : String) : String := "\x1b[1m" ++ text ++ "\x1b[0m"

end Launcher.Terminal
