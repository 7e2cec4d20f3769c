import Launcher.Machine.Shell.Arithmetic
import Launcher.Machine.Shell.Field

/-! Conditions on words: whether texts, numbers and files are as they should be. -/

namespace Launcher.Shell.Condition

/-- What a word is in a condition. -/
inductive Role where
  /-- A word that is looked at. -/
  | operand
  /-- An operator on the word behind it. -/
  | unary
  /-- An operator on the words around it. -/
  | binary
  /-- The sign of a negation. -/
  | negation
  /-- The sign between two conditions that must both hold. -/
  | conjunction
  /-- The sign between two conditions one of which must hold. -/
  | disjunction
  /-- An opening parenthesis. -/
  | opening
  /-- A closing parenthesis. -/
  | closing
  /-- No word at all. -/
  | missing
  deriving DecidableEq, Repr

/-- The operators on one word. -/
def unaryOperators : List String :=
  ["-r", "-w", "-x", "-e", "-f", "-d", "-c", "-b", "-p", "-u", "-g", "-k", "-s", "-t", "-z", "-n",
    "-h", "-O", "-G", "-L", "-S"]

/-- The operators on two words. -/
def binaryOperators : List String :=
  ["=", "!=", "<", ">", "-eq", "-ne", "-ge", "-gt", "-le", "-lt", "-nt", "-ot", "-ef"]

/-- What a word may be by its look. -/
def roleOf (word : Text) : Role :=
  let word := String.ofList word
  if unaryOperators.contains word then .unary
  else if binaryOperators.contains word then .binary
  else
    match word with
    | "!" => .negation
    | "-a" => .conjunction
    | "-o" => .disjunction
    | "(" => .opening
    | ")" => .closing
    | _ => .operand

/-- What the first of some words is; operators without operands are operands themselves. -/
def first (words : List Text) : Role :=
  match words with
  | [] => .missing
  | word :: rest =>
    let standsAlone : Bool :=
      match rest with
      | [] => true
      | [_] => false
      | next :: later :: _ => roleOf next = .binary && later ≠ [')']
    match roleOf word with
    | .unary => if standsAlone then .operand else .unary
    | .opening => if rest.isEmpty then .operand else .opening
    | role => role

/-- Whether a condition on one word holds; the error is the complaint about it. -/
def checkOne (state : State) (operator : String) (word : Text) : Except Text Bool :=
  let node := (state.files.open? state.directory word.bytes).toOption.map Prod.snd
  match operator with
  | "-n" => .ok !word.isEmpty
  | "-z" => .ok word.isEmpty
  | "-t" =>
    if (Arithmetic.decimal? word).isSome then .ok false
    else .error (.ofString "Illegal number: " ++ word)
  | "-e" | "-r" | "-w" | "-O" | "-G" => .ok node.isSome
  | "-d" => .ok (node = some .directory)
  | "-f" => .ok (node matches some (.file _ _) | some (.program _))
  | "-c" => .ok (node = some .null || node = some .full)
  | "-s" => .ok (node matches some (.file (_ :: _) _) | some (.program _) | some .directory)
  | "-x" => .ok (node matches some (.file _ true) | some (.program _) | some .directory)
  | "-h" | "-L" =>
    let place := state.files.find state.directory word.bytes false
    .ok ((place.toOption.bind state.files.node?) matches some (.link _))
  | _ => .ok false

/-- Whether a condition on two words holds; the error is the complaint about it. -/
def checkTwo (state : State) (operator : String) (left right : Text) : Except Text Bool := do
  let number (word : Text) : Except Text Int :=
    match Arithmetic.decimal? word with
    | some value => .ok value
    | none => .error (.ofString "Illegal number: " ++ word)
  let numbers (holds : Int → Int → Bool) : Except Text Bool := do
    return holds (← number left) (← number right)
  match operator with
  | "=" => return left = right
  | "!=" => return left ≠ right
  | "<" => return left ≠ right && Field.textLe left right
  | ">" => return left ≠ right && Field.textLe right left
  | "-eq" => numbers (· = ·)
  | "-ne" => numbers (· ≠ ·)
  | "-lt" => numbers (· < ·)
  | "-le" => numbers (· ≤ ·)
  | "-gt" => numbers (· > ·)
  | "-ge" => numbers (· ≥ ·)
  | "-ef" =>
    match state.files.open? state.directory left.bytes,
      state.files.open? state.directory right.bytes with
    | .ok (one, _), .ok (other, _) => return one = other
    | _, _ => return false
  | _ => return false

/-- A complaint about a word, which is not named if it is empty. -/
def complaint (word : Text) (text : String) : Text :=
  (if word.isEmpty then [] else word ++ [':', ' ']) ++ .ofString text

mutual

/-- Whether one of some conditions holds; the words given back start with the last one looked at. -/
def anyOf (fuel : Nat) (state : State) (role : Role) (words : List Text) :
    Except Text (Bool × List Text) := do
  match fuel with
  | 0 => return (false, words)
  | fuel + 1 =>
    let (holds, words) ← allOf fuel state role words
    if first words.tail = .disjunction then
      let later := words.drop 2
      let (other, words) ← anyOf fuel state (first later) later
      return (holds || other, words)
    else return (holds, words)

/-- Whether all of some conditions hold. -/
def allOf (fuel : Nat) (state : State) (role : Role) (words : List Text) :
    Except Text (Bool × List Text) := do
  match fuel with
  | 0 => return (false, words)
  | fuel + 1 =>
    let (holds, words) ← negated fuel state role words
    if first words.tail = .conjunction then
      let later := words.drop 2
      let (other, words) ← allOf fuel state (first later) later
      return (holds && other, words)
    else return (holds, words)

/-- Whether a condition behind any number of negations holds. -/
def negated (fuel : Nat) (state : State) (role : Role) (words : List Text) :
    Except Text (Bool × List Text) := do
  match fuel with
  | 0 => return (false, words)
  | fuel + 1 =>
    if role = .negation then
      let role := first words.tail
      let (holds, words) ← negated fuel state role (if role = .missing then words else words.tail)
      return (!holds, words)
    else single fuel state role words

/-- Whether a condition without signs holds. -/
def single (fuel : Nat) (state : State) (role : Role) (words : List Text) :
    Except Text (Bool × List Text) := do
  match fuel with
  | 0 => return (false, words)
  | fuel + 1 =>
    match role, words with
    | .missing, _ | _, [] => return (false, words)
    | .opening, _ :: inside =>
      if first inside = .closing then return (false, inside)
      let (holds, words) ← anyOf fuel state (first inside) inside
      if first words.tail = .closing then return (holds, words.tail)
      else throw (.ofString "closing paren expected")
    | .unary, [operator] => throw (complaint operator "argument expected")
    | .unary, operator :: word :: rest =>
      return (← checkOne state (String.ofList operator) word, word :: rest)
    | _, word :: rest =>
      match first rest, rest with
      | .binary, [operator] => throw (complaint operator "argument expected")
      | .binary, operator :: other :: rest =>
        return (← checkTwo state (String.ofList operator) word other, other :: rest)
      | _, _ => return (!word.isEmpty, words)

end

/-- Whether the condition holds that words express, the first of which has a given role. -/
def holdsAs (state : State) (role : Role) (words : List Text) : Except Text Bool := do
  let (holds, rest) ← anyOf (4 * words.length + 8) state role words
  match rest with
  | word :: _ :: _ => throw (complaint word "unexpected operator")
  | _ => return holds

/-- Whether the condition that words express is not as a negation in front of it says.

Of three words the middle one decides, if it is an operator on two. Else a negation in front of two
or three words is one of them all, and several such negations are no more than one. -/
def differs (state : State) (negated : Bool) (words : List Text) : Except Text Bool :=
  match words with
  | [] => .ok negated
  | word :: rest =>
    let isShort := rest.length = 2 || rest.length = 3
    let differsAs (role : Role) (words : List Text) : Except Text Bool :=
      (· != negated) <$> holdsAs state role words
    if rest.length = 2 && roleOf (rest.headD []) = .binary then differsAs .operand words
    else if isShort && word = ['('] && words.getLast? = some [')'] then
      differsAs (first rest.dropLast) rest.dropLast
    else if isShort && word = ['!'] then differs state true rest
    else differsAs (first words) words

/-- Whether the condition that words express holds; the error is the complaint about its form. -/
def holds (state : State) (words : List Text) : Except Text Bool := differs state false words

end Launcher.Shell.Condition
