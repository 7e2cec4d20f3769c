import Launcher.Text.Decimal

/-! Causes of failed system calls and their wording. -/

namespace Launcher

/-- The descriptions of the system's error numbers, from zero on. -/
def systemErrorTexts : List String := [
  "Success", "Operation not permitted", "No such file or directory", "No such process",
  "Interrupted system call", "Input/output error", "No such device or address",
  "Argument list too long", "Exec format error", "Bad file descriptor", "No child processes",
  "Resource temporarily unavailable", "Cannot allocate memory", "Permission denied", "Bad address",
  "Block device required", "Device or resource busy", "File exists", "Invalid cross-device link",
  "No such device", "Not a directory", "Is a directory", "Invalid argument",
  "Too many open files in system", "Too many open files", "Inappropriate ioctl for device",
  "Text file busy", "File too large", "No space left on device", "Illegal seek",
  "Read-only file system", "Too many links", "Broken pipe", "Numerical argument out of domain",
  "Numerical result out of range", "Resource deadlock avoided", "File name too long",
  "No locks available", "Function not implemented", "Directory not empty",
  "Too many levels of symbolic links", "Unknown error 41", "No message of desired type",
  "Identifier removed", "Channel number out of range", "Level 2 not synchronized", "Level 3 halted",
  "Level 3 reset", "Link number out of range", "Protocol driver not attached",
  "No CSI structure available", "Level 2 halted", "Invalid exchange", "Invalid request descriptor",
  "Exchange full", "No anode", "Invalid request code", "Invalid slot", "Unknown error 58",
  "Bad font file format", "Device not a stream", "No data available", "Timer expired",
  "Out of streams resources", "Machine is not on the network", "Package not installed",
  "Object is remote", "Link has been severed", "Advertise error", "Srmount error",
  "Communication error on send", "Protocol error", "Multihop attempted", "RFS specific error",
  "Bad message", "Value too large for defined data type", "Name not unique on network",
  "File descriptor in bad state", "Remote address changed",
  "Can not access a needed shared library", "Accessing a corrupted shared library",
  ".lib section in a.out corrupted", "Attempting to link in too many shared libraries",
  "Cannot exec a shared library directly", "Invalid or incomplete multibyte or wide character",
  "Interrupted system call should be restarted", "Streams pipe error", "Too many users",
  "Socket operation on non-socket", "Destination address required", "Message too long",
  "Protocol wrong type for socket", "Protocol not available", "Protocol not supported",
  "Socket type not supported", "Operation not supported", "Protocol family not supported",
  "Address family not supported by protocol", "Address already in use",
  "Cannot assign requested address", "Network is down", "Network is unreachable",
  "Network dropped connection on reset", "Software caused connection abort",
  "Connection reset by peer", "No buffer space available",
  "Transport endpoint is already connected", "Transport endpoint is not connected",
  "Cannot send after transport endpoint shutdown", "Too many references: cannot splice",
  "Connection timed out", "Connection refused", "Host is down", "No route to host",
  "Operation already in progress", "Operation now in progress", "Stale file handle",
  "Structure needs cleaning", "Not a XENIX named type file", "No XENIX semaphores available",
  "Is a named type file", "Remote I/O error", "Disk quota exceeded", "No medium found",
  "Wrong medium type", "Operation canceled", "Required key not available", "Key has expired",
  "Key has been revoked", "Key was rejected by service", "Owner died", "State not recoverable",
  "Operation not possible due to RF-kill", "Memory page has hardware error"
]

/-- Why an input or output operation failed. -/
inductive Cause where
  /-- The system refused with an error number. -/
  | system (number : Int)
  /-- Any other reason, in words. -/
  | other (text : String)
  deriving DecidableEq, Repr

namespace Cause

/-- A file or directory that does not exist. -/
def notFound : Cause := .system 2

/-- A list of arguments that is too long. -/
def argumentsTooLong : Cause := .system 7

/-- A file that is no program. -/
def notExecutable : Cause := .system 8

/-- Missing permission. -/
def denied : Cause := .system 13

/-- A path that goes on behind something that is no directory. -/
def notDirectory : Cause := .system 20

/-- A directory where a file is needed. -/
def isDirectory : Cause := .system 21

/-- A device without room. -/
def noSpace : Cause := .system 28

/-- A name longer than the system allows. -/
def nameTooLong : Cause := .system 36

/-- More symbolic links on the way than the system follows. -/
def tooManyLinks : Cause := .system 40

/-- The description of an error number; numbers without one are named. -/
def systemText (number : Int) : String :=
  match number with
  | .ofNat code => systemErrorTexts[code]?.getD ("Unknown error " ++ Decimal.ofNat code)
  | .negSucc _ => "Unknown error " ++ Decimal.ofInt number

/-- The wording of a cause, without the error number. -/
def description : Cause → String
  | .system number => systemText number
  | .other text => text

/-- The wording of a cause. -/
def message : Cause → String
  | .system number => systemText number ++ " (os error " ++ Decimal.ofInt number ++ ")"
  | .other text => text

end Cause

end Launcher
