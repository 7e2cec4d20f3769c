import Launcher.Cause
import Launcher.Path

/-! The ways in which a launch fails, their wording and the exit status they lead to. -/

namespace Launcher

/-- Why a launch could not be carried out. -/
inductive LaunchError where
  /-- A token with an equals sign is no option. -/
  | malformedOption (token : String)
  /-- A required argument was not given. -/
  | missingArgument (name : String)
  /-- The number of repetitions is no positive integer. -/
  | invalidRepeat (value : String)
  /-- A program could not be started. -/
  | launchFailure (program : String) (cause : Cause)
  /-- The directory of scripts could not be read. -/
  | scriptsDirectory (path : Path) (cause : Cause)
  /-- The output could not be written. -/
  | output (cause : Cause)
  deriving DecidableEq, Repr

namespace LaunchError

/-- The wording of an error. -/
def message : LaunchError → String
  | .malformedOption token =>
    "malformed option '" ++ token ++ "': expected exactly one '=' with a non-empty key"
  | .missingArgument name => "missing required argument <" ++ name ++ ">"
  | .invalidRepeat value => "invalid repeat '" ++ value ++ "': expected a positive integer"
  | .launchFailure program cause => "failed to launch '" ++ program ++ "': " ++ cause.message
  | .scriptsDirectory path cause =>
    "cannot read scripts directory " ++ path.text ++ ": " ++ cause.message
  | .output cause => "failed to write report: " ++ cause.message

/-- The failed operation behind an error. -/
def cause? : LaunchError → Option Cause
  | .malformedOption _ | .missingArgument _ | .invalidRepeat _ => none
  | .launchFailure _ cause | .scriptsDirectory _ cause | .output cause => some cause

/-- Whether the command line itself is at fault. -/
def isUsage : LaunchError → Bool
  | .malformedOption _ | .missingArgument _ | .invalidRepeat _ => true
  | .launchFailure _ _ | .scriptsDirectory _ _ | .output _ => false

end LaunchError

/-- The exit status for mistakes on the command line. -/
def usageStatus : Nat := 2

/-- Whatever ends a program early: a launch error or another fault, under any number of contexts. -/
inductive Failure where
  /-- A launch that could not be carried out. -/
  | launch (error : LaunchError)
  /-- Any other fault, in words. -/
  | other (text : String)
  /-- A failure together with a remark on what was being done. -/
  | within (context : String) (failure : Failure)
  deriving Repr

namespace Failure

/-- The launch error at the root of a failure. -/
def launchError? : Failure → Option LaunchError
  | .launch error => some error
  | .other _ => none
  | .within _ failure => failure.launchError?

/-- The exit status of a program that ends by a failure. -/
def exitStatus (failure : Failure) : Nat :=
  match failure.launchError? with
  | some error => if error.isUsage then usageStatus else 1
  | none => 1

end Failure

end Launcher
