import AgentLaunch.Request

/-!
# Errors of the operating system

The numbers and kinds of errors with their texts, and what they mean for a command that was to be
started.
-/

namespace AgentLaunch

/-- What an error is about, where the system gives no number. -/
inductive ErrorKind where
  | addrInUse
  | addrNotAvailable
  | alreadyExists
  | argumentListTooLong
  | brokenPipe
  | connectionAborted
  | connectionRefused
  | connectionReset
  | crossesDevices
  | deadlock
  | directoryNotEmpty
  | executableFileBusy
  | fileTooLarge
  | filesystemLoop
  | hostUnreachable
  | interrupted
  | invalidData
  | invalidFilename
  | invalidInput
  | isADirectory
  | networkDown
  | networkUnreachable
  | notADirectory
  | notConnected
  | notFound
  | notSeekable
  | other
  | outOfMemory
  | permissionDenied
  | quotaExceeded
  | readOnlyFilesystem
  | resourceBusy
  | staleNetworkFileHandle
  | storageFull
  | timedOut
  | tooManyLinks
  | unexpectedEof
  | unsupported
  | wouldBlock
  | writeZero
  deriving DecidableEq, Repr

def ErrorKind.description : ErrorKind → String
  | .addrInUse => "address in use"
  | .addrNotAvailable => "address not available"
  | .alreadyExists => "entity already exists"
  | .argumentListTooLong => "argument list too long"
  | .brokenPipe => "broken pipe"
  | .connectionAborted => "connection aborted"
  | .connectionRefused => "connection refused"
  | .connectionReset => "connection reset"
  | .crossesDevices => "cross-device link or rename"
  | .deadlock => "deadlock"
  | .directoryNotEmpty => "directory not empty"
  | .executableFileBusy => "executable file busy"
  | .fileTooLarge => "file too large"
  | .filesystemLoop => "filesystem loop or indirection limit (e.g. symlink loop)"
  | .hostUnreachable => "host unreachable"
  | .interrupted => "operation interrupted"
  | .invalidData => "invalid data"
  | .invalidFilename => "invalid filename"
  | .invalidInput => "invalid input parameter"
  | .isADirectory => "is a directory"
  | .networkDown => "network down"
  | .networkUnreachable => "network unreachable"
  | .notADirectory => "not a directory"
  | .notConnected => "not connected"
  | .notFound => "entity not found"
  | .notSeekable => "seek on unseekable file"
  | .other => "other error"
  | .outOfMemory => "out of memory"
  | .permissionDenied => "permission denied"
  | .quotaExceeded => "quota exceeded"
  | .readOnlyFilesystem => "read-only filesystem or storage medium"
  | .resourceBusy => "resource busy"
  | .staleNetworkFileHandle => "stale network file handle"
  | .storageFull => "no storage space"
  | .timedOut => "timed out"
  | .tooManyLinks => "too many links"
  | .unexpectedEof => "unexpected end of file"
  | .unsupported => "unsupported"
  | .wouldBlock => "operation would block"
  | .writeZero => "write zero"

def ErrorKind.named : List (String × ErrorKind) :=
  [("AddrInUse", .addrInUse),
    ("AddrNotAvailable", .addrNotAvailable),
    ("AlreadyExists", .alreadyExists),
    ("ArgumentListTooLong", .argumentListTooLong),
    ("BrokenPipe", .brokenPipe),
    ("ConnectionAborted", .connectionAborted),
    ("ConnectionRefused", .connectionRefused),
    ("ConnectionReset", .connectionReset),
    ("CrossesDevices", .crossesDevices),
    ("Deadlock", .deadlock),
    ("DirectoryNotEmpty", .directoryNotEmpty),
    ("ExecutableFileBusy", .executableFileBusy),
    ("FileTooLarge", .fileTooLarge),
    ("FilesystemLoop", .filesystemLoop),
    ("HostUnreachable", .hostUnreachable),
    ("Interrupted", .interrupted),
    ("InvalidData", .invalidData),
    ("InvalidFilename", .invalidFilename),
    ("InvalidInput", .invalidInput),
    ("IsADirectory", .isADirectory),
    ("NetworkDown", .networkDown),
    ("NetworkUnreachable", .networkUnreachable),
    ("NotADirectory", .notADirectory),
    ("NotConnected", .notConnected),
    ("NotFound", .notFound),
    ("NotSeekable", .notSeekable),
    ("Other", .other),
    ("OutOfMemory", .outOfMemory),
    ("PermissionDenied", .permissionDenied),
    ("QuotaExceeded", .quotaExceeded),
    ("ReadOnlyFilesystem", .readOnlyFilesystem),
    ("ResourceBusy", .resourceBusy),
    ("StaleNetworkFileHandle", .staleNetworkFileHandle),
    ("StorageFull", .storageFull),
    ("TimedOut", .timedOut),
    ("TooManyLinks", .tooManyLinks),
    ("UnexpectedEof", .unexpectedEof),
    ("Unsupported", .unsupported),
    ("WouldBlock", .wouldBlock),
    ("WriteZero", .writeZero)]

def ErrorKind.ofName? (name : String) : Option ErrorKind :=
  (named.find? fun k => k.1 = name).map (·.2)

/-- An error as the operating system, or the layer above it, reports it. -/
inductive OsError where
  | number (errno : Int)
  | ofKind (kind : ErrorKind) (message : Option String)
  deriving DecidableEq, Repr

namespace OsError

/-- The texts of the error numbers, from 0 on; there are gaps. -/
def texts : List String :=
  ["Success", "Operation not permitted", "No such file or directory", "No such process",
    "Interrupted system call", "Input/output error", "No such device or address",
    "Argument list too long", "Exec format error", "Bad file descriptor", "No child processes",
    "Resource temporarily unavailable", "Cannot allocate memory", "Permission denied",
    "Bad address", "Block device required", "Device or resource busy", "File exists",
    "Invalid cross-device link", "No such device", "Not a directory", "Is a directory",
    "Invalid argument", "Too many open files in system", "Too many open files",
    "Inappropriate ioctl for device", "Text file busy", "File too large",
    "No space left on device", "Illegal seek", "Read-only file system", "Too many links",
    "Broken pipe", "Numerical argument out of domain", "Numerical result out of range",
    "Resource deadlock avoided", "File name too long", "No locks available",
    "Function not implemented", "Directory not empty", "Too many levels of symbolic links", "",
    "No message of desired type", "Identifier removed", "Channel number out of range",
    "Level 2 not synchronized", "Level 3 halted", "Level 3 reset", "Link number out of range",
    "Protocol driver not attached", "No CSI structure available", "Level 2 halted",
    "Invalid exchange", "Invalid request descriptor", "Exchange full", "No anode",
    "Invalid request code", "Invalid slot", "", "Bad font file format", "Device not a stream",
    "No data available", "Timer expired", "Out of streams resources",
    "Machine is not on the network", "Package not installed", "Object is remote",
    "Link has been severed", "Advertise error", "Srmount error", "Communication error on send",
    "Protocol error", "Multihop attempted", "RFS specific error", "Bad message",
    "Value too large for defined data type", "Name not unique on network",
    "File descriptor in bad state", "Remote address changed",
    "Can not access a needed shared library", "Accessing a corrupted shared library",
    ".lib section in a.out corrupted", "Attempting to link in too many shared libraries",
    "Cannot exec a shared library directly", "Invalid or incomplete multibyte or wide character",
    "Interrupted system call should be restarted", "Streams pipe error", "Too many users",
    "Socket operation on non-socket", "Destination address required", "Message too long",
    "Protocol wrong type for socket", "Protocol not available", "Protocol not supported",
    "Socket type not supported", "Operation not supported", "Protocol family not supported",
    "Address family not supported by protocol", "Address already in use",
    "Cannot assign requested address", "Network is down", "Network is unreachable",
    "Network dropped connection on reset", "Software caused connection abort",
    "Connection reset by peer", "No buffer space available",
    "Transport endpoint is already connected", "Transport endpoint is not connected",
    "Cannot send after transport endpoint shutdown", "Too many references: cannot splice",
    "Connection timed out", "Connection refused", "Host is down", "No route to host",
    "Operation already in progress", "Operation now in progress", "Stale file handle",
    "Structure needs cleaning", "Not a XENIX named type file", "No XENIX semaphores available",
    "Is a named type file", "Remote I/O error", "Disk quota exceeded", "No medium found",
    "Wrong medium type", "Operation canceled", "Required key not available", "Key has expired",
    "Key has been revoked", "Key was rejected by service", "Owner died", "State not recoverable",
    "Operation not possible due to RF-kill", "Memory page has hardware error"]

def numberText (errno : Int) : String :=
  match (if errno < 0 then none else texts[errno.toNat]?) with
  | none | some "" => "Unknown error " ++ toString errno
  | some t => t

def message : OsError → String
  | .number errno => numberText errno ++ " (os error " ++ toString errno ++ ")"
  | .ofKind kind none => kind.description
  | .ofKind _ (some message) => message

def noEntry : OsError := .number 2

def tooBig : OsError := .number 7

def noExec : OsError := .number 8

def noAccess : OsError := .number 13

/-- A part of the path is not a directory. -/
def notDirectory : OsError := .number 20

def busy : OsError := .number 16

def present : OsError := .number 17

def invalid : OsError := .number 22

def notEmpty : OsError := .number 39

def isDirectory : OsError := .number 21

/-- A name is longer than the file system allows. -/
def nameTooLong : OsError := .number 36

def tooManyLevels : OsError := .number 40

def notPermitted : OsError := .number 1

def isNotFound : OsError → Bool
  | .number errno => errno = 2
  | .ofKind kind _ => kind = .notFound

def isPermissionDenied : OsError → Bool
  | .number errno => errno = 1 || errno = 13
  | .ofKind kind _ => kind = .permissionDenied

end OsError

/-- What an error means for the program that was to be started. -/
def SpawnError.ofOs (program : String) (e : OsError) : SpawnError :=
  if e.isNotFound then .programNotFound program
  else if e.isPermissionDenied then .permissionDenied (program ++ ": " ++ e.message)
  else .io (program ++ ": " ++ e.message)

end AgentLaunch
