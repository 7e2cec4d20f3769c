import Launcher.Text.Decimal

/-! Signals: their numbers, names and what they do to a process that does not care for them. -/

namespace Launcher.Signal

/-- The names of the signals, from number one on, without their common first syllable.

Those without a name go by their number. -/
def names : List String :=
  ["HUP", "INT", "QUIT", "ILL", "TRAP", "ABRT", "BUS", "FPE", "KILL", "USR1", "SEGV", "USR2",
    "PIPE", "ALRM", "TERM", "16", "CHLD", "CONT", "STOP", "TSTP", "TTIN", "TTOU", "URG", "XCPU",
    "XFSZ", "VTALRM", "PROF", "WINCH", "IO", "PWR", "SYS", "32", "33", "RTMIN"] ++
  (List.range 15).map (fun number => "RTMIN+" ++ Decimal.ofNat (number + 1)) ++
  (List.range 14).reverse.map (fun number => "RTMAX-" ++ Decimal.ofNat (number + 1)) ++ ["RTMAX"]

/-- How a shell speaks of a program that a signal ended, from number one on. -/
def descriptions : List String := [
  "Hangup", "Interrupt", "Quit", "Illegal instruction", "Trace/breakpoint trap", "Aborted",
  "Bus error", "Floating point exception", "Killed", "User defined signal 1", "Segmentation fault",
  "User defined signal 2", "Broken pipe", "Alarm clock", "Terminated", "Stack fault",
  "Child exited", "Continued", "Stopped (signal)", "Stopped", "Stopped (tty input)",
  "Stopped (tty output)", "Urgent I/O condition", "CPU time limit exceeded",
  "File size limit exceeded", "Virtual timer expired", "Profiling timer expired", "Window changed",
  "I/O possible", "Power failure", "Bad system call"
]

/-- The number of the first signal of those that have no meaning of their own. -/
def firstFree : Nat := 34

/-- How a shell speaks of a program that a signal ended. -/
def description (signal : Nat) : String :=
  if signal < firstFree then
    (descriptions[signal - 1]?).getD ("Unknown signal " ++ Decimal.ofNat signal)
  else "Real-time signal " ++ Decimal.ofNat (signal - firstFree)

/-- The name of a signal, if it is one. -/
def name? (signal : Nat) : Option String := if signal = 0 then none else names[signal - 1]?

/-- The number of a signal given by name, in upper or lower case. -/
def ofName? (name : String) : Option Nat := (names.idxOf? name.toUpper).map (· + 1)

/-- The signals that can be neither ignored nor caught: kill and stop. -/
def uncatchable : List Nat := [9, 19]

/-- The signals that leave an unprepared process alone: child, urgent and window news, and going on.

Those that would only stop a process are counted here, as nothing could start it again. -/
def harmless : List Nat := [17, 18, 19, 20, 21, 22, 23, 28]

/-- The signals that a shell does not speak of when they ended a program:
interrupt and broken pipe. -/
def silent : List Nat := [2, 13]

end Launcher.Signal
