import Launcher.Machine.Shell.Token

/-! Names in the complaints of programs, quoted so that a shell would read them back. -/

namespace Launcher.Shell.Quoted

/-- The characters that mean something to a shell wherever they stand. -/
def special : List Char :=
  [' ', '!', '"', '$', '&', '(', ')', '*', ';', '<', '=', '>', '?', '[', '\\', '^', '`', '|', '\'']

/-- Whether a character can be shown as it is. -/
def isShown (char : Char) : Bool := ' ' ≤ char && char ≤ '~'

/-- Whether a name has to be quoted; colons separate names in some complaints. -/
def needsQuotes (withColons : Bool) (name : Text) : Bool :=
  name.isEmpty || name = ['\x7b'] || name = ['\x7d'] || name.head? = some '#' ||
    name.head? = some '~' ||
    name.any fun char => !isShown char || special.contains char || (withColons && char = ':')

/-- Whether a character means the same in single and in double quotes, and has to
itself nothing special. -/
def isHarmless (char : Char) : Bool :=
  char.isAlphanum || [' ', '\'', '%', '+', ',', '-', '.', '/', ':', '_', ']', '@'].contains char

/-- The digits of a character's code in base eight. -/
def octalCode (char : Char) : Text :=
  let digits := Nat.toDigits 8 char.toNat
  List.replicate (3 - digits.length) '0' ++ digits

/-- The escape of a character that cannot be shown. -/
def escape (char : Char) : Text :=
  match char with
  | '\x07' => ['\\', 'a']
  | '\x08' => ['\\', 'b']
  | '\x0c' => ['\\', 'f']
  | '\n' => ['\\', 'n']
  | '\r' => ['\\', 'r']
  | '\t' => ['\\', 't']
  | '\x0b' => ['\\', 'v']
  | char => '\\' :: octalCode char

/-- The inside of single quotes; escapes stand in quotes of their own behind a dollar sign. -/
def inside (escaping : Bool) : Text → Text
  | [] => []
  | char :: rest =>
    if isShown char then
      let close := if escaping then ['\'', '\''] else []
      let shown := if char = '\'' then ['\'', '\\', '\'', '\''] else [char]
      close ++ shown ++ inside false rest
    else
      let start := if escaping then [] else ['\'', '$', '\'']
      start ++ escape char ++ inside true rest

/-- A name in quotes. -/
def always (name : Text) : Text :=
  if name.contains '\'' && name.all isHarmless then ['"'] ++ name ++ ['"']
  else ['\''] ++ inside false name ++ ['\'']

/-- A name in a complaint that goes on behind a colon, in quotes if it needs them. -/
def beforeColon (name : Text) : Text := if needsQuotes true name then always name else name

end Launcher.Shell.Quoted
