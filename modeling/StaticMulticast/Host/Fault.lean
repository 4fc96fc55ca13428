import StaticMulticast.Text.Quoted

/-!
# Faults of the host

What the operating system, or a reader built on it, can say when an operation fails. A fault has a
short text for people and a detailed text that also shows how the fault arose.
-/

namespace StaticMulticast.Host

/-- The sort of a fault. -/
inductive Fault.Kind where
  | permissionDenied
  | notFound
  | interrupted
  | inputOutputError
  | argumentListTooLong
  | wouldBlock
  | outOfMemory
  | resourceBusy
  | alreadyExists
  | crossesDevices
  | notADirectory
  | isADirectory
  | invalidInput
  | tooManyOpenFiles
  | executableFileBusy
  | fileTooLarge
  | storageFull
  | notSeekable
  | readOnlyFilesystem
  | tooManyLinks
  | brokenPipe
  | deadlock
  | invalidFilename
  | unsupported
  | directoryNotEmpty
  | filesystemLoop
  | addrInUse
  | addrNotAvailable
  | networkDown
  | networkUnreachable
  | connectionAborted
  | connectionReset
  | notConnected
  | timedOut
  | connectionRefused
  | hostUnreachable
  | inProgress
  | staleNetworkFileHandle
  | quotaExceeded
  | unexpectedEof
  | other
  | uncategorized
deriving DecidableEq, Repr

/-- The sort as it appears in the detailed text. -/
def Fault.Kind.name : Fault.Kind → String
  | .permissionDenied => "PermissionDenied"
  | .notFound => "NotFound"
  | .interrupted => "Interrupted"
  | .inputOutputError => "InputOutputError"
  | .argumentListTooLong => "ArgumentListTooLong"
  | .wouldBlock => "WouldBlock"
  | .outOfMemory => "OutOfMemory"
  | .resourceBusy => "ResourceBusy"
  | .alreadyExists => "AlreadyExists"
  | .crossesDevices => "CrossesDevices"
  | .notADirectory => "NotADirectory"
  | .isADirectory => "IsADirectory"
  | .invalidInput => "InvalidInput"
  | .tooManyOpenFiles => "TooManyOpenFiles"
  | .executableFileBusy => "ExecutableFileBusy"
  | .fileTooLarge => "FileTooLarge"
  | .storageFull => "StorageFull"
  | .notSeekable => "NotSeekable"
  | .readOnlyFilesystem => "ReadOnlyFilesystem"
  | .tooManyLinks => "TooManyLinks"
  | .brokenPipe => "BrokenPipe"
  | .deadlock => "Deadlock"
  | .invalidFilename => "InvalidFilename"
  | .unsupported => "Unsupported"
  | .directoryNotEmpty => "DirectoryNotEmpty"
  | .filesystemLoop => "FilesystemLoop"
  | .addrInUse => "AddrInUse"
  | .addrNotAvailable => "AddrNotAvailable"
  | .networkDown => "NetworkDown"
  | .networkUnreachable => "NetworkUnreachable"
  | .connectionAborted => "ConnectionAborted"
  | .connectionReset => "ConnectionReset"
  | .notConnected => "NotConnected"
  | .timedOut => "TimedOut"
  | .connectionRefused => "ConnectionRefused"
  | .hostUnreachable => "HostUnreachable"
  | .inProgress => "InProgress"
  | .staleNetworkFileHandle => "StaleNetworkFileHandle"
  | .quotaExceeded => "QuotaExceeded"
  | .unexpectedEof => "UnexpectedEof"
  | .other => "Other"
  | .uncategorized => "Uncategorized"

/-- A fault. -/
inductive Fault where
  /-- The operating system refused, and gave a number for the reason. -/
  | system (number : Int)
  /-- The request itself could not be put to the operating system. -/
  | unfit (kind : Fault.Kind) (message : String)
  /-- A reader failed for a reason of its own. -/
  | reader (kind : Fault.Kind) (message : String)
deriving DecidableEq, Repr

namespace Fault

/-- There is no such file or directory. -/
def missing : Fault := .system 2

/-- The file may not be used in this way. -/
def denied : Fault := .system 13

/-- A part of the path before the last is no directory. -/
def throughFile : Fault := .system 20

/-- A directory stands where a file is needed. -/
def directory : Fault := .system 21

/-- A part of the path, or all of it, is too long. -/
def nameTooLong : Fault := .system 36

/-- Something stands already where something is to be made. -/
def present : Fault := .system 17

/-- What is asked for makes no sense here. -/
def invalid : Fault := .system 22

/-- There is no such device. -/
def noDevice : Fault := .system 6

/-- Nobody reads what is written. -/
def brokenPipe : Fault := .system 32

/-- There is no room for more octets. -/
def noSpace : Fault := .system 28

/-- The descriptor does not lead to an open file of the kind that is needed. -/
def badDescriptor : Fault := .system 9

/-- The file may be executed, but is no program. -/
def notExecutable : Fault := .system 8

/-- Names or scripts that lead to one another do not come to an end. -/
def tooManyLevels : Fault := .system 40

/-- The host has no means to do this. -/
def unavailable : Fault := .system 38

/-- The path of a file to open has a zero octet in it. -/
def zeroInPath : Fault := .unfit .invalidInput "file name contained an unexpected NUL byte"

/-- The path of a program to start has a zero octet in it. -/
def zeroInCommand : Fault := .unfit .invalidInput "nul byte found in provided data"

/-- The reasons of the operating system that have a text, by number. -/
def descriptions : List (Int × String) :=
  [(0, "Success"), (1, "Operation not permitted"), (2, "No such file or directory"),
    (3, "No such process"), (4, "Interrupted system call"), (5, "Input/output error"),
    (6, "No such device or address"), (7, "Argument list too long"), (8, "Exec format error"),
    (9, "Bad file descriptor"), (10, "No child processes"),
    (11, "Resource temporarily unavailable"), (12, "Cannot allocate memory"),
    (13, "Permission denied"), (14, "Bad address"), (15, "Block device required"),
    (16, "Device or resource busy"), (17, "File exists"), (18, "Invalid cross-device link"),
    (19, "No such device"), (20, "Not a directory"), (21, "Is a directory"),
    (22, "Invalid argument"), (23, "Too many open files in system"), (24, "Too many open files"),
    (25, "Inappropriate ioctl for device"), (26, "Text file busy"), (27, "File too large"),
    (28, "No space left on device"), (29, "Illegal seek"), (30, "Read-only file system"),
    (31, "Too many links"), (32, "Broken pipe"), (33, "Numerical argument out of domain"),
    (34, "Numerical result out of range"), (35, "Resource deadlock avoided"),
    (36, "File name too long"), (37, "No locks available"), (38, "Function not implemented"),
    (39, "Directory not empty"), (40, "Too many levels of symbolic links"),
    (42, "No message of desired type"), (43, "Identifier removed"),
    (44, "Channel number out of range"), (45, "Level 2 not synchronized"), (46, "Level 3 halted"),
    (47, "Level 3 reset"), (48, "Link number out of range"), (49, "Protocol driver not attached"),
    (50, "No CSI structure available"), (51, "Level 2 halted"), (52, "Invalid exchange"),
    (53, "Invalid request descriptor"), (54, "Exchange full"), (55, "No anode"),
    (56, "Invalid request code"), (57, "Invalid slot"), (59, "Bad font file format"),
    (60, "Device not a stream"), (61, "No data available"), (62, "Timer expired"),
    (63, "Out of streams resources"), (64, "Machine is not on the network"),
    (65, "Package not installed"), (66, "Object is remote"), (67, "Link has been severed"),
    (68, "Advertise error"), (69, "Srmount error"), (70, "Communication error on send"),
    (71, "Protocol error"), (72, "Multihop attempted"), (73, "RFS specific error"),
    (74, "Bad message"), (75, "Value too large for defined data type"),
    (76, "Name not unique on network"), (77, "File descriptor in bad state"),
    (78, "Remote address changed"), (79, "Can not access a needed shared library"),
    (80, "Accessing a corrupted shared library"), (81, ".lib section in a.out corrupted"),
    (82, "Attempting to link in too many shared libraries"),
    (83, "Cannot exec a shared library directly"),
    (84, "Invalid or incomplete multibyte or wide character"),
    (85, "Interrupted system call should be restarted"), (86, "Streams pipe error"),
    (87, "Too many users"), (88, "Socket operation on non-socket"),
    (89, "Destination address required"), (90, "Message too long"),
    (91, "Protocol wrong type for socket"), (92, "Protocol not available"),
    (93, "Protocol not supported"), (94, "Socket type not supported"),
    (95, "Operation not supported"), (96, "Protocol family not supported"),
    (97, "Address family not supported by protocol"), (98, "Address already in use"),
    (99, "Cannot assign requested address"), (100, "Network is down"),
    (101, "Network is unreachable"), (102, "Network dropped connection on reset"),
    (103, "Software caused connection abort"), (104, "Connection reset by peer"),
    (105, "No buffer space available"), (106, "Transport endpoint is already connected"),
    (107, "Transport endpoint is not connected"),
    (108, "Cannot send after transport endpoint shutdown"),
    (109, "Too many references: cannot splice"), (110, "Connection timed out"),
    (111, "Connection refused"), (112, "Host is down"), (113, "No route to host"),
    (114, "Operation already in progress"), (115, "Operation now in progress"),
    (116, "Stale file handle"), (117, "Structure needs cleaning"),
    (118, "Not a XENIX named type file"), (119, "No XENIX semaphores available"),
    (120, "Is a named type file"), (121, "Remote I/O error"), (122, "Disk quota exceeded"),
    (123, "No medium found"), (124, "Wrong medium type"), (125, "Operation canceled"),
    (126, "Required key not available"), (127, "Key has expired"), (128, "Key has been revoked"),
    (129, "Key was rejected by service"), (130, "Owner died"), (131, "State not recoverable"),
    (132, "Operation not possible due to RF-kill"), (133, "Memory page has hardware error")]

/-- The text of a numbered reason. -/
def description (number : Int) : String :=
  (descriptions.lookup number).getD ("Unknown error " ++ toString number)

/-- The sort of a numbered reason. -/
def kindOfReason : Int → Kind
  | 1 => .permissionDenied
  | 2 => .notFound
  | 4 => .interrupted
  | 5 => .inputOutputError
  | 7 => .argumentListTooLong
  | 11 => .wouldBlock
  | 12 => .outOfMemory
  | 13 => .permissionDenied
  | 16 => .resourceBusy
  | 17 => .alreadyExists
  | 18 => .crossesDevices
  | 20 => .notADirectory
  | 21 => .isADirectory
  | 22 => .invalidInput
  | 23 => .tooManyOpenFiles
  | 24 => .tooManyOpenFiles
  | 26 => .executableFileBusy
  | 27 => .fileTooLarge
  | 28 => .storageFull
  | 29 => .notSeekable
  | 30 => .readOnlyFilesystem
  | 31 => .tooManyLinks
  | 32 => .brokenPipe
  | 35 => .deadlock
  | 36 => .invalidFilename
  | 38 => .unsupported
  | 39 => .directoryNotEmpty
  | 40 => .filesystemLoop
  | 95 => .unsupported
  | 98 => .addrInUse
  | 99 => .addrNotAvailable
  | 100 => .networkDown
  | 101 => .networkUnreachable
  | 103 => .connectionAborted
  | 104 => .connectionReset
  | 107 => .notConnected
  | 110 => .timedOut
  | 111 => .connectionRefused
  | 113 => .hostUnreachable
  | 115 => .inProgress
  | 116 => .staleNetworkFileHandle
  | 122 => .quotaExceeded
  | _ => .uncategorized

/-- The sort of a fault. -/
def kind : Fault → Kind
  | .system number => kindOfReason number
  | .unfit kind _ => kind
  | .reader kind _ => kind

/-- The reason of a fault, as programs tell it. -/
def reason : Fault → String
  | .system number => description number
  | .unfit _ message => message
  | .reader _ message => message

/-- The text of a fault for people, which also shows the number of the reason. -/
def message : Fault → String
  | .system number => description number ++ " (os error " ++ toString number ++ ")"
  | .unfit _ message => message
  | .reader _ message => message

/-- A name followed by fields in braces. -/
def record (name : String) (fields : List (String × String)) : String :=
  name ++ " \x7b " ++
    String.intercalate ", " (fields.map fun field => field.1 ++ ": " ++ field.2) ++ " \x7d"

/-- The text of a fault that shows how it arose. -/
def detail : Fault → String
  | .system number =>
      record "Os" [("code", toString number), ("kind", (kindOfReason number).name),
        ("message", Text.Quoted.quote (description number))]
  | .unfit kind message =>
      record "Error" [("kind", kind.name), ("message", Text.Quoted.quote message)]
  | .reader kind message =>
      record "Custom" [("kind", kind.name), ("error", Text.Quoted.quote message)]

end Fault

end StaticMulticast.Host
