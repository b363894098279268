/-
Errors of the operating system, as the program meets them on sockets, pipes and files.

* **`SystemError`** — an error number, or a bare text where no number is known;
* **`SystemError.kind`** — the portable class of an error, which is what the program branches on;
* **`SystemError.message`** — the text that is shown to the user.
-/
import LoadGenerator.SystemError.Texts

namespace LoadGenerator

/-- What a failed system call leaves behind: an error number, or a text without one. -/
inductive SystemError where
  | number (code : Int)
  | text (message : String)
  deriving DecidableEq, Repr, Inhabited

namespace SystemError

/-- The portable classes that error numbers fall into. -/
inductive Kind where
  | notFound | permissionDenied | connectionRefused | connectionReset | hostUnreachable
  | networkUnreachable | connectionAborted | notConnected | addressInUse | addressNotAvailable
  | networkDown | brokenPipe | alreadyExists | wouldBlock | notADirectory | isADirectory
  | directoryNotEmpty | readOnlyFilesystem | filesystemLoop | staleNetworkFileHandle
  | invalidInput | timedOut | storageFull | notSeekable | quotaExceeded | fileTooLarge
  | resourceBusy | executableFileBusy | deadlock | crossesDevices | tooManyLinks
  | invalidFilename | argumentListTooLong | interrupted | unsupported | outOfMemory
  | inProgress | other | uncategorized
  deriving DecidableEq, Repr

/-- The error numbers that have a class of their own; all others are uncategorized. -/
def kindOfNumber : Int → Kind
  | 1 | 13 => .permissionDenied
  | 2 => .notFound
  | 4 => .interrupted
  | 7 => .argumentListTooLong
  | 11 => .wouldBlock
  | 12 => .outOfMemory
  | 16 => .resourceBusy
  | 17 => .alreadyExists
  | 18 => .crossesDevices
  | 20 => .notADirectory
  | 21 => .isADirectory
  | 22 => .invalidInput
  | 26 => .executableFileBusy
  | 27 => .fileTooLarge
  | 28 => .storageFull
  | 29 => .notSeekable
  | 30 => .readOnlyFilesystem
  | 31 => .tooManyLinks
  | 32 => .brokenPipe
  | 35 => .deadlock
  | 36 => .invalidFilename
  | 38 | 95 => .unsupported
  | 39 => .directoryNotEmpty
  | 40 => .filesystemLoop
  | 98 => .addressInUse
  | 99 => .addressNotAvailable
  | 100 => .networkDown
  | 101 => .networkUnreachable
  | 103 => .connectionAborted
  | 104 => .connectionReset
  | 107 => .notConnected
  | 110 => .timedOut
  | 111 => .connectionRefused
  | 113 => .hostUnreachable
  | 115 => .inProgress
  | 116 => .staleNetworkFileHandle
  | 122 => .quotaExceeded
  | _ => .uncategorized

/-- The class of an error; one without a number belongs to no system class. -/
def kind : SystemError → Kind
  | number code => kindOfNumber code
  | text _ => .other

/-- The number of an error, where it has one. -/
def code? : SystemError → Option Int
  | number code => some code
  | text _ => none

/-- The text shown for an error: the system's own with its number, or the bare text. -/
def message : SystemError → String
  | number code => s!"{describe code} (os error {code})"
  | text message => message

/-! ### The errors that the program itself meets or names -/

/-- The operation is not permitted on such a file. -/
def notPermitted : SystemError := .number 1

/-- There is no such file or directory. -/
def noEntry : SystemError := .number 2

/-- The descriptor is not open for this use. -/
def badDescriptor : SystemError := .number 9

/-- The call would have to wait. -/
def tryAgain : SystemError := .number 11

/-- A part of the path is not a directory. -/
def notDirectory : SystemError := .number 20

/-- The path names a directory. -/
def isDirectory : SystemError := .number 21

/-- The system's table of open files is full. -/
def systemTableFull : SystemError := .number 23

/-- The process has no descriptor left. -/
def tooManyOpenFiles : SystemError := .number 24

/-- Nobody reads from the other end. -/
def brokenPipe : SystemError := .number 32

/-- No route leads to the network. -/
def networkUnreachable : SystemError := .number 101

/-- The socket has no peer. -/
def notConnected : SystemError := .number 107

/-- The connect goes on in the background. -/
def connectInProgress : SystemError := .number 115

/-- An error that means the process or the system has run out of descriptors. -/
def exhaustsDescriptors (e : SystemError) : Bool :=
  e = tooManyOpenFiles || e = systemTableFull

end SystemError

end LoadGenerator
