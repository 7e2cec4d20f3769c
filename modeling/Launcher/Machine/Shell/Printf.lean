import Launcher.Cause
import Launcher.Machine.Shell.Arithmetic

/-! Escapes and formats in what a script prints. -/

namespace Launcher.Shell.Printf

/-- The character of a one-letter escape. -/
def letterEscape? (char : Char) : Option Char :=
  match char with
  | 'a' => some '\x07'
  | 'b' => some '\x08'
  | 'e' => some '\x1b'
  | 'f' => some '\x0c'
  | 'n' => some '\n'
  | 'r' => some '\r'
  | 't' => some '\t'
  | 'v' => some '\x0b'
  | '\\' => some '\\'
  | _ => none

/-- Whether a character is a digit of base eight. -/
def isOctal (char : Char) : Bool := '0' ≤ char && char ≤ '7'

/-- The byte that octal digits denote. -/
def octal (digits : Text) : Char := Char.ofNat ((Arithmetic.digits 8 digits).1 % 256)

/-- Up to so many octal digits at the front of a text. -/
def octalDigits (most : Nat) (text : Text) : Text := (text.take most).takeWhile isOctal

/-- What stands behind a backslash in a format, and what follows it; an unknown escape is none. -/
def escape (text : Text) : Text × Text :=
  match text with
  | [] => (['\\'], [])
  | char :: rest =>
    match letterEscape? char, octalDigits 3 text with
    | some escaped, _ => ([escaped], rest)
    | none, [] => (['\\'], text)
    | none, digits => ([octal digits], text.drop digits.length)

/-- A text with its escapes carried out, and whether an escape ended the output.

A zero in front of three octal digits is left out. -/
def unescape (fuel : Nat) (text : Text) : Text × Bool :=
  match fuel, text with
  | 0, _ | _, [] => ([], false)
  | _, '\\' :: 'c' :: _ => ([], true)
  | fuel + 1, '\\' :: rest =>
    let (escaped, after) :=
      match rest with
      | '0' :: digit :: _ => if isOctal digit then escape rest.tail else escape rest
      | rest => escape rest
    let (later, ended) := unescape fuel after
    (escaped ++ later, ended)
  | fuel + 1, char :: rest =>
    let (later, ended) := unescape fuel rest
    (char :: later, ended)

/-- A width or precision. -/
inductive Size where
  /-- A number of characters. -/
  | fixed (count : Nat)
  /-- As an argument says. -/
  | asked
  deriving DecidableEq, Repr

/-- How an argument is to be printed. -/
structure Directive where
  /-- Letters for alignment, signs and padding. -/
  flags : Text
  /-- The least number of characters. -/
  width : Option Size
  /-- The number of digits, or the most characters of a text. -/
  precision : Option Size
  /-- What the argument is. -/
  conversion : Char
  deriving DecidableEq, Repr

/-- A piece of a format. -/
inductive Piece where
  /-- Text to be printed as it is. -/
  | literal (text : Text)
  /-- A place for an argument. -/
  | place (directive : Directive)
  /-- Something wrong, behind which nothing is printed. -/
  | broken (complaint : Text)
  deriving DecidableEq, Repr

/-- A size at the front of a text, and what follows it. -/
def readSize (text : Text) : Option Size × Text :=
  match text with
  | '*' :: rest => (some .asked, rest)
  | text =>
    let digits := text.takeWhile Char.isDigit
    (if digits.isEmpty then none else some (.fixed (Arithmetic.digits 10 digits).1),
      text.drop digits.length)

/-- The conversions of arguments. -/
def conversions : List Char := ['d', 'i', 'o', 'u', 'x', 'X', 'c', 's', 'b']

/-- A place at the front of a text, behind its sign, and what follows it. -/
def readPlace (text : Text) : Piece × Text :=
  let flags := text.takeWhile fun char => ['#', '-', '+', ' ', '0'].contains char
  let (width, rest) := readSize (text.drop flags.length)
  let (precision, rest) : Option Size × Text :=
    match rest with
    | '.' :: rest => ((readSize rest).1.or (some (.fixed 0)), (readSize rest).2)
    | rest => (none, rest)
  match rest with
  | [] => (.broken (.ofString "missing format character"), [])
  | conversion :: after =>
    if conversions.contains conversion then (.place ⟨flags, width, precision, conversion⟩, after)
    else
      let written := '%' :: text.take (text.length - after.length)
      (.broken (written ++ .ofString ": invalid directive"), [])

/-- The pieces of a format. -/
def pieces (fuel : Nat) (format : Text) : List Piece :=
  match fuel, format with
  | 0, _ | _, [] => []
  | fuel + 1, '%' :: '%' :: rest => .literal ['%'] :: pieces fuel rest
  | fuel + 1, '%' :: rest =>
    let (piece, after) := readPlace rest
    piece :: pieces fuel after
  | fuel + 1, '\\' :: rest =>
    let (escaped, after) := escape rest
    .literal escaped :: pieces fuel after
  | fuel + 1, char :: rest => .literal [char] :: pieces fuel rest

/-- A text filled up to a width with blanks, or with zeros behind its sign. -/
def pad (flags : Text) (zeros : Bool) (width : Nat) (sign text : Text) : Text :=
  let missing := width - (sign.length + text.length)
  if flags.contains '-' then sign ++ text ++ List.replicate missing ' '
  else if zeros then sign ++ List.replicate missing '0' ++ text
  else List.replicate missing ' ' ++ sign ++ text

/-- A number as a conversion prints it. -/
def number (directive : Directive) (width : Nat) (precision : Option Nat) (value : Int) : Text :=
  let word := (value % Arithmetic.modulus).toNat
  let alternate := directive.flags.contains '#'
  let (sign, digits) : Text × Text :=
    match directive.conversion with
    | 'o' => ([], Nat.toDigits 8 word)
    | 'u' => ([], Nat.toDigits 10 word)
    | 'x' => (if alternate && word ≠ 0 then ['0', 'x'] else [], Nat.toDigits 16 word)
    | 'X' =>
      (if alternate && word ≠ 0 then ['0', 'X'] else [], (Nat.toDigits 16 word).map Char.toUpper)
    | _ =>
      (if value < 0 then ['-']
        else if directive.flags.contains '+' then ['+']
        else if directive.flags.contains ' ' then [' '] else [],
        Nat.toDigits 10 value.natAbs)
  let digits := if value = 0 && precision = some 0 then [] else digits
  let digits := List.replicate (precision.getD 0 - digits.length) '0' ++ digits
  let digits :=
    if directive.conversion = 'o' && alternate && digits.head? ≠ some '0' then '0' :: digits
    else digits
  pad directive.flags (directive.flags.contains '0' && precision.isNone) width sign digits

/-- What has been printed so far. -/
structure Progress where
  /-- The arguments left over. -/
  arguments : List Text
  /-- Whether any has been asked for. -/
  asked : Bool := false
  /-- What is printed, the last piece first. -/
  printed : List Text := []
  /-- What is wrong with arguments, the last complaint first. -/
  complaints : List Text := []
  /-- What is wrong with the format. -/
  broken : Option Text := none
  /-- Whether nothing more is printed. -/
  ended : Bool := false

namespace Progress

/-- The next argument, if there is one. -/
def next (progress : Progress) : Option Text × Progress :=
  (progress.arguments.head?, { progress with arguments := progress.arguments.tail, asked := true })

/-- Complains about an argument. -/
def complain (progress : Progress) (argument : Text) (complaint : String) : Progress :=
  { progress with complaints := (argument ++ .ofString (": " ++ complaint)) :: progress.complaints }

/-- The next argument as a number; one that is quoted stands for the code of its first character. -/
def nextNumber (progress : Progress) (signed : Bool) : Int × Progress :=
  let (argument, progress) := progress.next
  match argument.getD [] with
  | '\'' :: rest | '"' :: rest => ((rest.head?.map Char.toNat).getD 0, progress)
  | argument =>
    match Arithmetic.signed? Arithmetic.number argument with
    | none =>
      if argument.isEmpty then (0, progress)
      else (0, progress.complain argument "expected numeric value")
    | some (value, rest) =>
      let top : Int := if signed then Arithmetic.greatest else Arithmetic.modulus - 1
      let bottom : Int := if signed then Arithmetic.least else -top
      if value > top || value < bottom then
        (if value > top || !signed then top else bottom,
          progress.complain argument (Cause.description (.system 34)))
      else if !rest.isEmpty then (value, progress.complain argument "not completely converted")
      else (value, progress)

/-- A size, perhaps as the next argument says; a negative one is on the other side. -/
def size (progress : Progress) (asked : Option Size) : Option Int × Progress :=
  match asked with
  | none => (none, progress)
  | some (.fixed count) => (some count, progress)
  | some .asked =>
    let (value, progress) := progress.nextNumber true
    (some value, progress)

/-- Prints a text. -/
def print (progress : Progress) (text : Text) : Progress :=
  { progress with printed := text :: progress.printed }

/-- Prints an argument. -/
def place (progress : Progress) (directive : Directive) : Progress :=
  let (width, progress) := progress.size directive.width
  let (precision, progress) := progress.size directive.precision
  let flags := if width.any (· < 0) then '-' :: directive.flags else directive.flags
  let directive := { directive with flags }
  let width := (width.map Int.natAbs).getD 0
  let precision := (precision.filter (0 ≤ ·)).map Int.toNat
  let ofText (text : Text) : Text :=
    pad flags false width [] (text.take (precision.getD text.length))
  match directive.conversion with
  | 's' =>
    let (argument, progress) := progress.next
    progress.print (ofText (argument.getD []))
  | 'b' =>
    let (argument, progress) := progress.next
    let argument := argument.getD []
    let (text, ended) := unescape (argument.length + 1) argument
    { progress.print (ofText text) with ended }
  | 'c' =>
    let (argument, progress) := progress.next
    progress.print (pad flags false width [] [(argument.bind List.head?).getD '\x00'])
  | conversion =>
    let (value, progress) := progress.nextNumber (conversion = 'd' || conversion = 'i')
    progress.print (number directive width precision value)

/-- Prints a piece of a format, unless printing has ended. -/
def step (progress : Progress) (piece : Piece) : Progress :=
  if progress.ended || progress.broken.isSome then progress
  else
    match piece with
    | .literal text => progress.print text
    | .place directive => progress.place directive
    | .broken complaint => { progress with broken := some complaint }

/-- The text that has been printed. -/
def text (progress : Progress) : Text := progress.printed.reverse.flatten

end Progress

/-- Prints pieces as often as it takes to use up the arguments. -/
def repeatedly (fuel : Nat) (pieces : List Piece) (progress : Progress) : Progress :=
  match fuel with
  | 0 => progress
  | fuel + 1 =>
    let progress := pieces.foldl Progress.step progress
    let isOver := progress.ended || progress.broken.isSome
    if progress.asked && !progress.arguments.isEmpty && !isOver then
      repeatedly fuel pieces progress
    else progress

/-- What comes of printing arguments in a format. -/
def format (format : Text) (arguments : List Text) : Progress :=
  repeatedly (arguments.length + 1) (pieces (format.length + 1) format) { arguments }

end Launcher.Shell.Printf
