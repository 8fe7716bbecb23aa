import ModuleLocator.Text.Quoted
import ModuleLocator.Text.Utf8
/-!
Operating-system errors. An error carries its error number and, when the
failing call named a file, that file. Its report is `[Errno n] message`,
followed by the quoted file when there is one; an error raised with a bare
text reports only that text. The error numbers sort errors into kinds: a
missing file, a path through something that is not a directory, a
directory where a file was wanted, a denied permission, and so on.
-/

namespace ModuleLocator

-- Error numbers the library itself produces, and the messages of all of them.
namespace Errno

def notPermitted : Nat := 1
def noEntry : Nat := 2
def io : Nat := 5
def denied : Nat := 13
def alreadyExists : Nat := 17
def notDir : Nat := 20
def isDir : Nat := 21
def nameTooLong : Nat := 36
def loop : Nat := 40

/-- The standard messages of error numbers 0 to 133. -/
def messages : List String := [
  "Success", "Operation not permitted", "No such file or directory", "No such process",
  "Interrupted system call", "Input/output error", "No such device or address",
  "Argument list too long", "Exec format error", "Bad file descriptor", "No child processes",
  "Resource temporarily unavailable", "Cannot allocate memory", "Permission denied",
  "Bad address", "Block device required", "Device or resource busy", "File exists",
  "Invalid cross-device link", "No such device", "Not a directory", "Is a directory",
  "Invalid argument", "Too many open files in system", "Too many open files",
  "Inappropriate ioctl for device", "Text file busy", "File too large",
  "No space left on device", "Illegal seek", "Read-only file system", "Too many links",
  "Broken pipe", "Numerical argument out of domain", "Numerical result out of range",
  "Resource deadlock avoided", "File name too long", "No locks available",
  "Function not implemented", "Directory not empty", "Too many levels of symbolic links",
  "Unknown error 41", "No message of desired type", "Identifier removed",
  "Channel number out of range", "Level 2 not synchronized", "Level 3 halted", "Level 3 reset",
  "Link number out of range", "Protocol driver not attached", "No CSI structure available",
  "Level 2 halted", "Invalid exchange", "Invalid request descriptor", "Exchange full",
  "No anode", "Invalid request code", "Invalid slot", "Unknown error 58",
  "Bad font file format", "Device not a stream", "No data available", "Timer expired",
  "Out of streams resources", "Machine is not on the network", "Package not installed",
  "Object is remote", "Link has been severed", "Advertise error", "Srmount error",
  "Communication error on send", "Protocol error", "Multihop attempted", "RFS specific error",
  "Bad message", "Value too large for defined data type", "Name not unique on network",
  "File descriptor in bad state", "Remote address changed",
  "Can not access a needed shared library", "Accessing a corrupted shared library",
  ".lib section in a.out corrupted", "Attempting to link in too many shared libraries",
  "Cannot exec a shared library directly", "Invalid or incomplete multibyte or wide character",
  "Interrupted system call should be restarted", "Streams pipe error", "Too many users",
  "Socket operation on non-socket", "Destination address required", "Message too long",
  "Protocol wrong type for socket", "Protocol not available", "Protocol not supported",
  "Socket type not supported", "Operation not supported", "Protocol family not supported",
  "Address family not supported by protocol", "Address already in use",
  "Cannot assign requested address", "Network is down", "Network is unreachable",
  "Network dropped connection on reset", "Software caused connection abort",
  "Connection reset by peer", "No buffer space available",
  "Transport endpoint is already connected", "Transport endpoint is not connected",
  "Cannot send after transport endpoint shutdown", "Too many references: cannot splice",
  "Connection timed out", "Connection refused", "Host is down", "No route to host",
  "Operation already in progress", "Operation now in progress", "Stale file handle",
  "Structure needs cleaning", "Not a XENIX named type file", "No XENIX semaphores available",
  "Is a named type file", "Remote I/O error", "Disk quota exceeded", "No medium found",
  "Wrong medium type", "Operation canceled", "Required key not available", "Key has expired",
  "Key has been revoked", "Key was rejected by service", "Owner died", "State not recoverable",
  "Operation not possible due to RF-kill", "Memory page has hardware error"]

/-- The message of an error number. -/
def message (n : Nat) : String := messages.getD n ("Unknown error " ++ toString n)

end Errno

/-- Why a path cannot be handed to the operating system at all. -/
inductive PathFault where
  | unencodable (e : Text.EncodeError)
  | nullByte
  deriving DecidableEq, Repr

namespace PathFault

/-- The kind of error a refused path raises. -/
def kind : PathFault → String
  | unencodable _ => "UnicodeEncodeError"
  | nullByte => "ValueError"

/-- The report of a refused path. -/
def message : PathFault → String
  | unencodable e => e.message
  | nullByte => "embedded null byte"

/-- The bytes of a path text as the operating system takes it: UTF-8, with
the halves U+DC80 to U+DCFF standing for single bytes; refused when it
holds other halves or a null byte. -/
def bytesOf (path : String) : Except PathFault (List UInt8) :=
  match Text.encodeEscaped path with
  | .error e => .error (.unencodable e)
  | .ok bs => if bs.contains 0 then .error .nullByte else .ok bs

/-- The refusal of a path text, if it is refused. -/
def check? (path : String) : Option PathFault :=
  match bytesOf path with
  | .error f => some f
  | .ok _ => none

end PathFault

/-- A failed call to the operating system, or a path refused before any
call is made. -/
inductive OsError where
  | coded (errno : Nat) (files : List String)
  | plain (text : String)
  | refused (f : PathFault)
  deriving DecidableEq, Repr

instance : Inhabited OsError := ⟨.plain ""⟩

namespace OsError

/-- Whether the error came from the operating system, and so is handled
as one; a refused path is not. -/
def isSystem : OsError → Bool
  | refused _ => false
  | _ => true

/-- The kind of a numbered error, by its number. -/
def kindOf (n : Nat) : String :=
  if n = 1 || n = 13 then "PermissionError"
  else if n = 2 then "FileNotFoundError"
  else if n = 3 then "ProcessLookupError"
  else if n = 4 then "InterruptedError"
  else if n = 10 then "ChildProcessError"
  else if n = 11 || n = 114 || n = 115 then "BlockingIOError"
  else if n = 17 then "FileExistsError"
  else if n = 20 then "NotADirectoryError"
  else if n = 21 then "IsADirectoryError"
  else if n = 32 || n = 108 then "BrokenPipeError"
  else if n = 103 then "ConnectionAbortedError"
  else if n = 104 then "ConnectionResetError"
  else if n = 110 then "TimeoutError"
  else if n = 111 then "ConnectionRefusedError"
  else "OSError"

/-- The kind of an error. -/
def kind : OsError → String
  | coded n _ => kindOf n
  | plain _ => "OSError"
  | refused f => f.kind

/-- The error number, if the error has one. -/
def errno? : OsError → Option Nat
  | coded n _ => some n
  | _ => none

/-- The report of an error. -/
def message : OsError → String
  | coded n files =>
    "[Errno " ++ toString n ++ "] " ++ Errno.message n ++
      (if files.isEmpty then "" else ": " ++ " -> ".intercalate (files.map Text.quote))
  | plain t => t
  | refused f => f.message

end OsError

end ModuleLocator
