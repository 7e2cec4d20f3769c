import Launcher.Log.Expression
import Launcher.Log.Record
import Launcher.Text.Alphanumeric
import Launcher.Text.Blank
import Launcher.Text.Bytes

/-! Log directives: up to which level some of the log records are shown. -/

namespace Launcher

/-- Up to which level records are shown, and which ones this is about. -/
structure LogDirective where
  /-- What the targets of the records start with. -/
  target : List Char := []
  /-- The name of a value that the records have. -/
  field : Option (List Char) := none
  /-- Whether this is only about what happens within a named or valued span of time. -/
  inSpan : Bool := false
  /-- Rank of the last level that is shown; none is at zero. -/
  rank : Nat := Level.trace.rank
  deriving DecidableEq, Repr

namespace LogRecord

/-- The names of the values of a record, of which what it says is one. -/
def fieldNames (record : LogRecord) : List String := "message" :: record.fields.map Prod.fst

end LogRecord

namespace LogDirective

/-- Whether a directive is about a record; the launcher has no spans of time that
records could be in. -/
def concerns (directive : LogDirective) (record : LogRecord) : Bool :=
  !directive.inSpan && directive.target.isPrefixOf record.target.toList &&
    directive.field.all fun name => record.fieldNames.contains (String.ofList name)

/-- Whether a text comes before another one or equals it, by the codes of its characters. -/
def textLe : List Char → List Char → Bool
  | [], _ => true
  | _ :: _, [] => false
  | first :: rest, other :: more => if first = other then textLe rest more else first < other

/-- Whether a directive that concerns a record says no less of it than another one does.

A longer target says more, then a value does, and of two values the one with the later name. -/
def isNoBroader (directive other : LogDirective) : Bool :=
  if directive.target.length ≠ other.target.length then
    other.target.length < directive.target.length
  else
    match directive.field, other.field with
    | _, none => true
    | none, some _ => false
    | some name, some other => textLe other name

/-- The rank that a level's name or number stands for, upper and lower case alike. -/
def rank? (text : List Char) : Option Nat :=
  let digits := if text.head? = some '+' then text.tail else text
  match Decimal.natOfDigits? digits with
  | some number => if number ≤ Level.trace.rank then some number else none
  | none =>
    match String.ofList (text.map Char.toLower) with
    | "off" => some 0
    | "error" => some Level.error.rank
    | "warn" => some Level.warn.rank
    | "info" => some Level.info.rank
    | "debug" => some Level.debug.rank
    | "trace" => some Level.trace.rank
    | _ => none

/-- Whether a text is a number with a plus sign in front, which no search expression has there. -/
def isPlusNumber (text : List Char) : Bool :=
  match text with
  | '+' :: number =>
    let whole := number.takeWhile Char.isDigit
    let rest := number.drop whole.length
    let fraction := if rest.head? = some '.' then rest.tail.takeWhile Char.isDigit else []
    let rest := if rest.head? = some '.' then rest.tail.drop fraction.length else rest
    let exponent :=
      match rest with
      | [] => true
      | mark :: '+' :: digits | mark :: '-' :: digits | mark :: digits =>
        mark.toLower = 'e' && (Decimal.natOfDigits? digits).isSome
    let word := String.ofList (number.map Char.toLower)
    ["inf", "infinity", "nan"].contains word || (!(whole ++ fraction).isEmpty && exponent)
  | _ => false

/-- The name of a value, and what the value has to be like if that is said. -/
def field? (text : List Char) : Option (List Char × Option (List Char)) :=
  let name := text.takeWhile (· ≠ '=')
  match text.drop name.length with
  | [] => some (name, none)
  | _ :: rest =>
    -- A second equals sign ends what is looked at.
    let value := rest.takeWhile (· ≠ '=')
    if isPlusNumber value || Expression.isWellFormed value then some (name, some value) else none

/-- A directive as it is being read.

Places are found in the text without the white space around it, and what stands there is taken from
the text as given, counted in bytes. -/
structure Reading where
  /-- The text as given. -/
  given : Bytes
  /-- How many bytes were read. -/
  offset : Nat := 0
  /-- What is still to be read, without the white space around the text. -/
  rest : List Char

namespace Reading

/-- A text of which nothing was read. -/
def ofText (text : List Char) : Reading where
  given := text.flatMap String.utf8EncodeChar
  rest := trimBlank text

/-- Passes one character of one byte. -/
def pass (reading : Reading) : Reading :=
  { reading with offset := reading.offset + 1, rest := reading.rest.tail }

/-- What stands before the first of some characters, that character, and the reading behind it. -/
def upTo? (stops : List Char) (reading : Reading) : Option (List Char × Char × Reading) :=
  let inside := reading.rest.takeWhile (!stops.contains ·)
  let width := (inside.flatMap String.utf8EncodeChar).length
  match reading.rest.drop inside.length with
  | [] => none
  | stop :: rest => do
    let piece ← Utf8.chars? ((reading.given.drop reading.offset).take width)
    some (piece, stop, { reading with offset := reading.offset + width + 1, rest })

/-- All that stands behind what was read. -/
def remainder? (reading : Reading) : Option (List Char) :=
  Utf8.chars? (reading.given.drop reading.offset)

end Reading

/-- Reads the level of a directive to the end; without one, everything is shown. -/
def readLevel? (directive : LogDirective) (reading : Reading) : Option LogDirective := do
  let level ← reading.remainder?
  if level.isEmpty then some directive else (rank? level).map fun rank => { directive with rank }

/-- Reads on behind a closing bracket. -/
def readEnd? (directive : LogDirective) (reading : Reading) : Option LogDirective :=
  match reading.rest with
  | [] => some directive
  | '=' :: _ => readLevel? directive reading.pass
  | _ => none

/-- Reads what stands in brackets: the name of a span, and in braces a value. -/
def readBracket? (directive : LogDirective) (reading : Reading) : Option LogDirective := do
  let (span, stop, reading) ← reading.upTo? [']', '\x7b']
  if stop = ']' then readEnd? { directive with inSpan := true } reading
  else
    let (inside, _, reading) ← reading.upTo? ['\x7d']
    if inside.isEmpty then none
    else
      let (name, value) ← field? inside
      match reading.rest with
      | ']' :: _ =>
        readEnd? { directive with inSpan := !span.isEmpty || value.isSome, field := some name }
          reading.pass
      | _ => none

/-- Reads a directive: a level for everything, or a target, brackets and a level, each if given. -/
def read? (text : List Char) : Option LogDirective :=
  let reading := Reading.ofText text
  match reading.rest with
  | [] => none
  | '[' :: _ => readBracket? {} reading.pass
  | first :: _ =>
    if !(isAlphanumeric first || ['-', ':', '_'].contains first) then none
    else
      match reading.upTo? ['=', '['] with
      | some (target, stop, reading) =>
        if stop = '=' then readLevel? { target } reading else readBracket? { target } reading
      | none =>
        match rank? text with
        | some rank => some { rank }
        | none => some { target := text }

end LogDirective

end Launcher
