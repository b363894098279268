/-
System errors in full, as they are shown when one of them ends the program.

* **`SystemError.Kind.word`** — the name of a class;
* **`SystemError.inFull`** — the number, the class and the text of an error.
-/
import LoadGenerator.SystemError
import LoadGenerator.Text.Quoted
import LoadGenerator.Text.Record

namespace LoadGenerator.SystemError

namespace Kind

/-- The name of a class, as it is shown to the user. -/
def word : Kind → String
  | .notFound => "NotFound"
  | .permissionDenied => "PermissionDenied"
  | .connectionRefused => "ConnectionRefused"
  | .connectionReset => "ConnectionReset"
  | .hostUnreachable => "HostUnreachable"
  | .networkUnreachable => "NetworkUnreachable"
  | .connectionAborted => "ConnectionAborted"
  | .notConnected => "NotConnected"
  | .addressInUse => "AddrInUse"
  | .addressNotAvailable => "AddrNotAvailable"
  | .networkDown => "NetworkDown"
  | .brokenPipe => "BrokenPipe"
  | .alreadyExists => "AlreadyExists"
  | .wouldBlock => "WouldBlock"
  | .notADirectory => "NotADirectory"
  | .isADirectory => "IsADirectory"
  | .directoryNotEmpty => "DirectoryNotEmpty"
  | .readOnlyFilesystem => "ReadOnlyFilesystem"
  | .filesystemLoop => "FilesystemLoop"
  | .staleNetworkFileHandle => "StaleNetworkFileHandle"
  | .invalidInput => "InvalidInput"
  | .timedOut => "TimedOut"
  | .storageFull => "StorageFull"
  | .notSeekable => "NotSeekable"
  | .quotaExceeded => "QuotaExceeded"
  | .fileTooLarge => "FileTooLarge"
  | .resourceBusy => "ResourceBusy"
  | .executableFileBusy => "ExecutableFileBusy"
  | .deadlock => "Deadlock"
  | .crossesDevices => "CrossesDevices"
  | .tooManyLinks => "TooManyLinks"
  | .invalidFilename => "InvalidFilename"
  | .argumentListTooLong => "ArgumentListTooLong"
  | .interrupted => "Interrupted"
  | .unsupported => "Unsupported"
  | .outOfMemory => "OutOfMemory"
  | .inProgress => "InProgress"
  | .other => "Other"
  | .uncategorized => "Uncategorized"

end Kind

/-- The number, the class and the text of an error; or the class and the bare text. -/
def inFull : SystemError → String
  | number code =>
    Text.record "Os" [("code", toString code), ("kind", (kindOfNumber code).word),
      ("message", Text.quoted (describe code))]
  | text message =>
    Text.record "Custom" [("kind", Kind.other.word), ("error", Text.quoted message)]

end LoadGenerator.SystemError
