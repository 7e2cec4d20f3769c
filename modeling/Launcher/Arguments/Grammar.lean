import Launcher.Text.Bytes
import Launcher.Text.Terminal

/-! The options that a program knows, and the ways in which its arguments can be wrong. -/

namespace Launcher.Arguments

/-- What an option is for. -/
inductive Role where
  /-- It takes a text. -/
  | text
  /-- It takes a path, which is not empty. -/
  | path
  /-- It is only given or not. -/
  | flag
  /-- It asks for the program's version. -/
  | version
  /-- It asks for a description of the program. -/
  | help
  deriving DecidableEq, Repr

/-- An option of a program. -/
structure Rule where
  /-- Its name, which two hyphens come before. -/
  long : String
  /-- Its letter, which one hyphen comes before. -/
  short : Option Char := none
  /-- What it is for. -/
  role : Role
  /-- What its value is called. -/
  placeholder : String := ""
  /-- The environment variable that stands in for it. -/
  environment : Option String := none
  deriving DecidableEq, Repr

namespace Rule

/-- Whether a value belongs to an option. -/
def takesValue (rule : Rule) : Bool :=
  match rule.role with
  | .text | .path => true
  | .flag | .version | .help => false

/-- An option as it is shown. -/
def display (rule : Rule) : String :=
  "--" ++ rule.long ++ if rule.takesValue then " <" ++ rule.placeholder ++ ">" else ""

end Rule

/-- What a program takes besides options. -/
inductive Tail where
  /-- Everything from the first argument on that is no option, whatever it looks like. -/
  | everything
  /-- Some arguments between its options. -/
  | atMost (count : Nat)
  deriving DecidableEq, Repr

/-- The arguments that a program knows. -/
structure Grammar where
  /-- Its options. -/
  rules : List Rule
  /-- What it takes besides. -/
  tail : Tail
  /-- How it is called, in short. -/
  usage : String
  deriving DecidableEq, Repr

/-- What is wrong with arguments. -/
inductive Fault where
  /-- An option lacks its value. -/
  | valueMissing (rule : Rule)
  /-- An option is given twice. -/
  | repeated (rule : Rule)
  /-- An option without a value is given one. -/
  | valueUnexpected (rule : Rule) (value : String)
  /-- An argument is not known. -/
  | unknown (argument : String)
  /-- A value is not text. -/
  | notText
  deriving DecidableEq, Repr

/-- What was given or asked for, as a message points it out. -/
def pointedOut (text : String) : String := "'" ++ Terminal.emphasized text ++ "'"

/-- The wording of a fault, marked up for a terminal. -/
def Fault.message : Fault → String
  | .valueMissing rule =>
    "a value is required for " ++ pointedOut rule.display ++ " but none was supplied"
  | .repeated rule => "the argument " ++ pointedOut rule.display ++ " cannot be used multiple times"
  | .valueUnexpected rule value =>
    "unexpected value " ++ pointedOut value ++ " for " ++ pointedOut rule.display ++
      " found; no more were expected"
  | .unknown argument => "unexpected argument " ++ pointedOut argument ++ " found"
  | .notText => "invalid UTF-8 was detected in one or more arguments"

/-- The lines that tell of a fault and of ways to learn more, marked up for a terminal. -/
def Grammar.complaint (grammar : Grammar) (fault : Fault) : List String :=
  let hint :=
    (grammar.rules.find? fun rule => rule.role = .help).map fun rule =>
      ["", "For more information, try " ++ pointedOut rule.display ++ "."]
  ["error: " ++ fault.message, "", "Usage: " ++ grammar.usage] ++ hint.getD []

/-- Why reading arguments ends before they are used. -/
inductive Stop where
  /-- The version is asked for. -/
  | version
  /-- A description is asked for. -/
  | help
  /-- Something is wrong with them. -/
  | fault (fault : Fault)
  deriving DecidableEq, Repr

end Launcher.Arguments
