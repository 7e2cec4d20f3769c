import Launcher.Main
import Launcher.Proofs.Invocation.Building
import Launcher.Proofs.Invocation.Forwarding
import Launcher.Proofs.Invocation.Refusal
import Launcher.Proofs.Request.Verdict
import Launcher.Proofs.Launch.Modes
import Launcher.Proofs.Launch.Truncation
import Launcher.Proofs.Program.Stdout
import Launcher.Proofs.Reporter.Held
import Launcher.Proofs.Run.Repetition
import Launcher.Text.Literal.Reader
import Launcher.Text.Word.Split
import Launcher.Proofs.Launch.Refusal
import Launcher.Proofs.Invocation.Reading
import Launcher.Proofs.Invocation.DistinctKeys
import Launcher.Proofs.Invocation.RunCount
import Launcher.Proofs.Run.Alike
import Launcher.Proofs.Reporter.Quiet
import Launcher.Proofs.Launch.Independence
import Launcher.Proofs.Options.History
import Launcher.Proofs.Text.Word
import Launcher.Proofs.Reporter.Untroubled
import Launcher.Proofs.Launch.Success
import Launcher.Proofs.Launch.Delivery
import Launcher.Proofs.Program.ExitStatus
import Launcher.Proofs.Program.Tokens
import Launcher.Proofs.Reporter.CommandLine
import Launcher.Proofs.Request.Interleaving
import Launcher.Proofs.ScriptPath
