import Launcher.Error
import Launcher.Options

/-! What a list of launcher tokens asks for. -/

namespace Launcher

/-- What a single token is by its spelling. -/
inductive Token where
  /-- The wish for the usage line. -/
  | help
  /-- A value for an option. -/
  | option (key value : String)
  /-- An equals sign without a key before it or with another one behind it. -/
  | malformed
  /-- Any token without an equals sign. -/
  | positional
  deriving DecidableEq, Repr

namespace Token

/-- The spelling of the wish for a list of scripts, which no single token settles. -/
def listingText : String := "--ls"

/-- The spelling of the wish for the usage line. -/
def helpText : String := "--help"

/-- The key and the value around the first equals sign of a text. -/
def splitAtEquals? (text : List Char) : Option (List Char × List Char) :=
  match text.dropWhile (· ≠ '=') with
  | [] => none
  | _ :: value => some (text.takeWhile (· ≠ '='), value)

/-- What a token is by its spelling. -/
def read (token : String) : Token :=
  if token = helpText then .help
  else
    match splitAtEquals? token.toList with
    | none => .positional
    | some (key, value) =>
      if key.isEmpty || value.contains '=' then .malformed
      else .option (String.ofList key) (String.ofList value)

end Token

/-- What the tokens of a launcher ask for. -/
inductive Request where
  /-- A list of the scripts. -/
  | listScripts
  /-- The usage line. -/
  | help
  /-- A launch with these options and positional arguments. -/
  | launch (options : Options) (positionals : List String)
  deriving DecidableEq

namespace Request

/-- Reads tokens in order until one settles the request, collecting options and positionals. -/
def scan (options : Options) (positionals : List String) : List String → Except LaunchError Request
  | [] => .ok (.launch options positionals)
  | token :: rest =>
    match Token.read token with
    | .help => .ok .help
    | .malformed => .error (.malformedOption token)
    | .option key value => scan (options.set key value) positionals rest
    | .positional => scan options (positionals ++ [token]) rest

/-- What tokens ask for, given the options to start from.

A wish for the list of scripts wins over everything else, wherever it stands. -/
def ofTokens (start : Options) (tokens : List String) : Except LaunchError Request :=
  if tokens.contains Token.listingText then .ok .listScripts else scan start [] tokens

end Request

end Launcher
