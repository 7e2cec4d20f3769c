import Launcher.Machine.Shell.Pattern
import Launcher.Machine.Shell.State

/-! The words that an expanded word stands for: its parts, and the paths that they match. -/

namespace Launcher.Shell.Field

/-- What stands before the part of a word that is looked at. -/
inductive Gap where
  /-- Nothing, or a part that goes on. -/
  | none
  /-- White space that ended a part. -/
  | blank
  /-- Another separator. -/
  | mark
  deriving DecidableEq, Repr

/-- Whether a separator is white space. -/
def isBlank (char : Char) : Bool := char = ' ' || char = '\t' || char = '\n'

/-- The part being made, given from its end, if there is one. -/
def finish (current : Option (List Mark)) : List (List Mark) := (current.map List.reverse).toList

/-- Splits the marks of a word into parts.

White space separates as often as it stands there only once, also together with
another separator. -/
def split (separators : Text) : List Mark → Option (List Mark) → Gap → List (List Mark)
  | [], current, _ => finish current
  | .edge :: rest, current, _ => finish current ++ split separators rest none .none
  | .soft char :: rest, current, gap =>
    if !separators.contains char then
      split separators rest (some (.soft char :: current.getD [])) .none
    else
      match isBlank char, current, gap with
      | true, some _, _ => finish current ++ split separators rest none .blank
      | true, none, gap => split separators rest none gap
      | false, none, .blank => split separators rest none .mark
      | false, current, _ => (current.getD []).reverse :: split separators rest none .mark
  | .present :: rest, current, _ => split separators rest (some (current.getD [])) .none
  | mark :: rest, current, _ => split separators rest (some (mark :: current.getD [])) .none

/-- The characters that separate words after an expansion. -/
def separators (state : State) : Text := (state.valueOf ['I', 'F', 'S']).getD [' ', '\t', '\n']

/-- Whether a text comes before another one or equals it. -/
def textLe : Text → Text → Bool
  | [], _ => true
  | _ :: _, [] => false
  | first :: rest, other :: more => if first = other then textLe rest more else first < other

/-- Whether a mark is a slash. -/
def isSlash (mark : Mark) : Bool := mark.char? = some '/'

/-- Whether something is there under a path. -/
def exists_ (state : State) (path : Text) : Bool :=
  match state.files.find state.directory path.bytes false with
  | .ok place => (state.files.node? place).isSome
  | .error _ => false

/-- The names in a directory, those of itself and its parent among them. -/
def namesIn (state : State) (path : Text) : List Text :=
  match state.files.open? state.directory path.bytes with
  | .ok (place, .directory) =>
    ['.'] :: ['.', '.'] :: (state.files.children place).map fun (name, _) => Text.ofBytes name
  | _ => []

/-- The paths that match a pattern behind a text that is settled; hidden names must be asked for. -/
def matching (fuel : Nat) (state : State) (front : Text) (marks : List Mark) : List Text :=
  match fuel with
  | 0 => []
  | fuel + 1 =>
    if !Pattern.isPattern marks then
      let path := front ++ Mark.text marks
      if exists_ state path then [path] else []
    else
      let pattern := marks.takeWhile (!isSlash ·)
      let rest := marks.drop pattern.length
      let slashes := Mark.text (rest.takeWhile isSlash)
      let rest := rest.dropWhile isSlash
      if !Pattern.isPattern pattern then
        matching fuel state (front ++ Mark.text pattern ++ slashes) rest
      else
        let hidden := pattern.findSome? Mark.char? = some '.'
        let found := (namesIn state (if front.isEmpty then ['.'] else front)).filter fun name =>
          (hidden || name.head? ≠ some '.') && Pattern.matchesText pattern name
        if slashes.isEmpty then found.map (front ++ ·)
        else found.flatMap fun name => matching fuel state (front ++ name ++ slashes) rest

/-- The texts that a part of a word stands for: the paths that match it, if there are any. -/
def paths (state : State) (marks : List Mark) : List Text :=
  if state.hasFlag 'f' || !Pattern.isPattern marks then [Mark.text marks]
  else
    match matching (marks.length + 1) state [] marks with
    | [] => [Mark.text marks]
    | found => found.mergeSort textLe

/-- The words that an expanded word stands for. -/
def words (state : State) (marks : List Mark) : List Text :=
  (split (separators state) marks none .none).flatMap (paths state)

end Launcher.Shell.Field
