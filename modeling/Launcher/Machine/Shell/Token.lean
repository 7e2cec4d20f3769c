import Launcher.Text.Bytes
import Launcher.Text.Decimal

/-! The tokens of a shell script. -/

namespace Launcher.Shell

/-- Text as the shell handles it: bytes, each held as the character with its code. -/
abbrev Text := List Char

/-- The bytes of a shell text. -/
def Text.bytes (text : Text) : Bytes := text.map fun char => UInt8.ofNat char.toNat

/-- The shell text of bytes. -/
def Text.ofBytes (bytes : Bytes) : Text := bytes.map fun byte => Char.ofNat byte.toNat

/-- The shell text of an ordinary one. -/
def Text.ofString (text : String) : Text := .ofBytes (utf8 text)

/-- A piece of a script. -/
inductive Token where
  /-- A word with its quotes and expansions as written. -/
  | word (raw : Text)
  /-- A control or redirection operator. -/
  | operator (text : String)
  /-- A descriptor number right before a redirection operator. -/
  | descriptor (number : Nat)
  /-- The end of a line. -/
  | newline
  /-- Lines to be read by a command, and whether there are expansions in them. -/
  | document (body : Text) (expanded : Bool)
  /-- A word that is not closed, with the complaint about it. -/
  | broken (complaint : String)
  /-- The end of the script. -/
  | finish
  deriving DecidableEq, Repr

/-- A token and where it stands. -/
structure PlacedToken where
  /-- The line that it starts on, counted from one. -/
  start : Nat
  /-- The line that has been reached behind it. -/
  line : Nat
  /-- The token. -/
  token : Token
  deriving DecidableEq, Repr

/-- Something that was opened inside a word and has to be closed again. -/
inductive Opened where
  /-- A single quote. -/
  | single
  /-- A double quote. -/
  | double
  /-- A parenthesis, as of a command in the midst of a word. -/
  | paren
  /-- The two parentheses of a sum. -/
  | sum
  /-- A parenthesis inside a sum. -/
  | group
  /-- A brace around a parameter. -/
  | brace
  /-- A backquote. -/
  | tick
  deriving DecidableEq, Repr

/-- Whether a character ends a word that nothing keeps open. -/
def endsWord (char : Char) : Bool :=
  [' ', '\t', '\n', ';', '&', '|', '<', '>', '(', ')'].contains char

/-- Whether what is open makes a single quote an ordinary character. -/
def hidesQuotes (opened : List Opened) : Bool :=
  match opened.dropWhile (· = .brace) with
  | .double :: _ | .sum :: _ | .group :: _ => true
  | _ => false

/-- What is open behind a character, and how many of the next ones belong to it and
mean nothing more. -/
def advance (opened : List Opened) (char : Char) (rest : Text) : List Opened × Nat :=
  match opened.head?, char with
  | some .single, '\'' => (opened.tail, 0)
  | some .single, _ => (opened, 0)
  | _, '\\' => (opened, 1)
  | some .tick, '`' | some .double, '"' | some .paren, ')' | some .group, ')' | some .brace, '}' =>
    (opened.tail, 0)
  | some .tick, _ => (opened, 0)
  | some .sum, ')' => if rest.head? = some ')' then (opened.tail, 1) else (opened, 0)
  | _, '$' =>
    match rest with
    | '(' :: '(' :: _ => (.sum :: opened, 2)
    | '(' :: _ => (.paren :: opened, 1)
    | '{' :: _ => (.brace :: opened, 1)
    | _ => (opened, 0)
  | _, '`' => (.tick :: opened, 0)
  | _, '"' => (.double :: opened, 0)
  | _, '\'' => if hidesQuotes opened then (opened, 0) else (.single :: opened, 0)
  | some .paren, '(' => (.paren :: opened, 0)
  | some .sum, '(' | some .group, '(' => (.group :: opened, 0)
  | _, _ => (opened, 0)

/-- The complaint about what is still open where a script ends. -/
def unclosed (opened : List Opened) : String :=
  "Syntax error: " ++
    match opened.dropWhile (· = .brace) with
    | [] => "Missing '\x7d'"
    | .single :: _ | .double :: _ => "Unterminated quoted string"
    | .paren :: _ => "end of file unexpected (expecting \")\")"
    | .sum :: _ | .group :: _ => "Missing '))'"
    | .tick :: _ => "EOF in backquote substitution"
    | .brace :: _ => "Missing '\x7d'"

/-- The front of a text up to the end of a word. -/
structure WordSplit where
  /-- The word, or what there is of it. -/
  word : Text
  /-- What follows it. -/
  after : Text
  /-- What is wrong with it. -/
  complaint : Option String := none

/-- Splits off the front of a text up to the end of a word; a line's end must not
follow an open brace. -/
def takeWord (opened : List Opened) (text : Text) : WordSplit :=
  match text with
  | [] => ⟨[], [], if opened.isEmpty then none else some (unclosed opened)⟩
  | char :: rest =>
    if opened.isEmpty && endsWord char then ⟨[], text, none⟩
    else if char = '\n' && opened.all (· = .brace) then ⟨[], text, some (unclosed opened)⟩
    else
      let (opened, count) := advance opened char rest
      let split := takeWord opened (rest.drop count)
      { split with word := char :: rest.take count ++ split.word }
termination_by text.length
decreasing_by simp only [List.length_cons, List.length_drop]; omega

/-- Splits a text at the end of what is open within something else; what closes it is dropped. -/
def takeInside (outer opened : List Opened) (text : Text) : Text × Text :=
  match text with
  | [] => ([], [])
  | char :: rest =>
    let (opened, count) := advance opened char rest
    if opened.length ≤ outer.length then ([], rest.drop count)
    else
      let (inside, after) := takeInside outer opened (rest.drop count)
      (char :: rest.take count ++ inside, after)
termination_by text.length
decreasing_by simp only [List.length_cons, List.length_drop]; omega

/-- Splits a text at the end of what has just been opened in it; what closes it is dropped. -/
def takeOpened (opened : Opened) (outer : List Opened) (text : Text) : Text × Text :=
  takeInside outer (opened :: outer) text

/-- What ends the lines that a command is to read. -/
structure Delimiter where
  /-- The line that ends them. -/
  text : Text
  /-- Whether tabs in front of them are left out. -/
  withoutTabs : Bool
  /-- Whether there are expansions in them. -/
  expanded : Bool

/-- A delimiter as it is written, quoted or not. -/
def Delimiter.ofWord (withoutTabs : Bool) (raw : Text) : Delimiter where
  text := raw.filter fun char => !(['\'', '"', '\\'].contains char)
  withoutTabs
  expanded := !raw.any fun char => ['\'', '"', '\\'].contains char

/-- The lines up to a delimiter, and what follows it. -/
def takeLines (fuel : Nat) (delimiter : Delimiter) (text : Text) : Text × Text :=
  match fuel, text with
  | 0, _ | _, [] => ([], [])
  | fuel + 1, text =>
    let whole := text.takeWhile (· ≠ '\n')
    let line := if delimiter.withoutTabs then whole.dropWhile (· = '\t') else whole
    match text.drop whole.length with
    | [] => if line = delimiter.text then ([], []) else (line, [])
    | _ :: rest =>
      if line = delimiter.text then ([], rest)
      else
        let (body, after) := takeLines fuel delimiter rest
        (line ++ '\n' :: body, after)

/-- The documents that delimiters end, one behind the other, and what follows them. -/
def takeDocuments (text : Text) : List Delimiter → List Token × Text
  | [] => ([], text)
  | delimiter :: later =>
    let (body, rest) := takeLines (text.length + 1) delimiter text
    let (documents, rest) := takeDocuments rest later
    (.document body delimiter.expanded :: documents, rest)

/-- The operators, longer ones before those that they start with. -/
def operators : List Text :=
  ["<<-", "&&", "||", ";;", "<<", ">>", ">&", "<&", "<>", ">|", "&", "|", ";", "(", ")", "<",
    ">"].map String.toList

/-- The word at the front of a text; a digit before a redirection is no word. -/
def wordToken (split : WordSplit) : Token :=
  let redirects := split.after.head? = some '<' || split.after.head? = some '>'
  match split.complaint, split.word with
  | some complaint, _ => .broken complaint
  | none, [digit] =>
    if digit.isDigit && redirects then .descriptor (digit.toNat - '0'.toNat) else .word [digit]
  | none, word => .word word

/-- Reads tokens with a bound on their number; documents for some delimiters follow at
the end of the line. -/
def tokensFrom (fuel line : Nat) (awaited : List Delimiter) (text : Text) : List PlacedToken :=
  match fuel, text with
  | 0, _ | _, [] => [⟨line, line, .finish⟩]
  | fuel + 1, ' ' :: rest | fuel + 1, '\t' :: rest => tokensFrom fuel line awaited rest
  | fuel + 1, '\\' :: '\n' :: rest => tokensFrom fuel (line + 1) awaited rest
  | fuel + 1, '#' :: rest => tokensFrom fuel line awaited (rest.dropWhile (· ≠ '\n'))
  | fuel + 1, '\n' :: rest =>
    let (documents, after) := takeDocuments rest awaited
    let next := line + 1 + (rest.take (rest.length - after.length)).count '\n'
    ⟨line, line + 1, .newline⟩ :: documents.map (⟨line, next, ·⟩) ++ tokensFrom fuel next [] after
  | fuel + 1, text =>
    match operators.find? (·.isPrefixOf text) with
    | some operator =>
      let rest := text.drop operator.length
      let placed : PlacedToken := ⟨line, line, .operator (String.ofList operator)⟩
      if operator.take 2 = ['<', '<'] then
        let split := takeWord [] (rest.dropWhile fun char => char = ' ' || char = '\t')
        let delimiter := Delimiter.ofWord (operator.length = 3) split.word
        if split.word.isEmpty || split.complaint.isSome then
          placed :: tokensFrom fuel line awaited rest
        else
          placed :: ⟨line, line, .word split.word⟩ ::
            tokensFrom fuel line (awaited ++ [delimiter]) split.after
      else placed :: tokensFrom fuel line awaited rest
    | none =>
      let split := takeWord [] text
      let next := line + split.word.count '\n'
      match wordToken split with
      | .broken complaint => [⟨line, next, .broken complaint⟩]
      | token => ⟨line, next, token⟩ :: tokensFrom fuel next awaited split.after

/-- Puts documents in the places of their delimiters. -/
def placeDocuments (documents : List Token) : List PlacedToken → List PlacedToken
  | [] => []
  | first :: rest =>
    match first.token with
    | .document _ _ => placeDocuments documents rest
    | .operator text =>
      match rest with
      | [] => [first]
      | second :: later =>
        if text.startsWith "<<" && second.token matches .word _ then
          let document := documents.head?.getD (.document [] true)
          { first with token := .operator "<<" } :: { second with token := document } ::
            placeDocuments documents.tail later
        else first :: placeDocuments documents (second :: later)
    | _ => first :: placeDocuments documents rest

/-- The tokens of a script whose first line has a number; bytes that are zero are left out. -/
def tokens (line : Nat) (script : Text) : List PlacedToken :=
  let script := script.filter (· ≠ '\x00')
  let placed := tokensFrom (script.length + 1) line [] script
  placeDocuments ((placed.map PlacedToken.token).filter (· matches .document _ _)) placed

end Launcher.Shell
