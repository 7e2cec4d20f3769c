import Launcher.Path

/-! Where the launcher finds the things it works with. -/

namespace Launcher

/-- Where the launcher finds the things it works with. -/
structure Settings where
  /-- Interpreter that runs the harness. -/
  java : String := "java"
  /-- Archive that holds the harness. -/
  harnessJar : String := "dist/mmtk-harness.jar"
  /-- Directory of the test scripts. -/
  scriptsDir : Path := .ofText "MMTk/harness/test-scripts"
  /-- File name extension of the test scripts. -/
  scriptExtension : String := "script"
  /-- Program that builds and runs a test suite. -/
  buildit : String := "./bin/buildit"
  /-- Host that the build runs on. -/
  host : String := "localhost"
  deriving DecidableEq, Repr

namespace Settings

/-- A text without the slashes at its end. -/
def withoutTrailingSlashes (text : List Char) : List Char :=
  (text.reverse.dropWhile (· = '/')).reverse

/-- The path of a script, its directory joined to its name by one slash. -/
def scriptPath (settings : Settings) (name : String) : String :=
  let directory := withoutTrailingSlashes settings.scriptsDir.text.toList
  let file := name ++ "." ++ settings.scriptExtension
  if directory.isEmpty then file else String.ofList directory ++ "/" ++ file

end Settings

end Launcher
