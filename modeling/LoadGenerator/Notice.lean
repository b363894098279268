/-
Everything that the program tells its log.

* **`Notice`** — one thing to tell, with what it is about;
* **`Notice.level`**, **`Notice.message`**, **`Notice.line`** — how urgent it is, and its text.

Notices on a connection name the roster entry as well as the address, since two entries may have the
same address; only the address is shown.
-/
import LoadGenerator.SystemError
import LoadGenerator.Text.Quoted
import LoadGenerator.Toml.Description
import LoadGenerator.Worker.Report

namespace LoadGenerator

/-- How urgent a notice is. -/
inductive Level where
  | debug | info | warn | error
  deriving DecidableEq, Repr

/-- The word for a level. -/
def Level.word : Level → String
  | debug => "DEBUG"
  | info => "INFO"
  | warn => "WARN"
  | error => "ERROR"

/-- One thing that the program tells its log. -/
inductive Notice where
  | usingCpus (count : Nat)
  | pinFailed (core : Nat) (error : SystemError)
  | pinned (core : Nat)
  | socketFailed (error : SystemError)
  | connectFailed (entry : Nat) (address : SocketAddress) (error : SystemError)
  | registerFailed (entry : Nat) (address : SocketAddress) (error : SystemError)
  | connectionClosedBy (entry : Nat) (address : SocketAddress)
  | writeFailed (entry : Nat) (address : SocketAddress) (error : SystemError)
  | controlReadFailed (worker : Nat) (error : SystemError)
  | controlClosed (worker : Nat)
  | unknownCommand (worker : Nat) (byte : UInt8)
  | pollFailed (worker : Nat) (error : SystemError)
  | descriptorsExhausted (limit : Int) (reason : String)
  | workerExit (report : WorkerReport)
  | engineSummary (workers attempts failures transmitted : Nat)
  | unknownConfiguration (key : String) (value : Toml.Value)
  | wroteDefaults (path : String)
  | couldNotWriteDefaults (path : String) (error : SystemError)
  | requestedConnections (count : Nat)
  | receivedSignal
  | receivedAnotherSignal
  | transmittedInAll (bytes workers : Nat)

namespace Notice

/-- How urgent a notice is. -/
def level : Notice → Level
  | pinned _ | socketFailed _ => .debug
  | usingCpus _ | workerExit _ | engineSummary .. | wroteDefaults _ | requestedConnections _
  | receivedSignal | transmittedInAll .. => .info
  | pollFailed .. | descriptorsExhausted .. => .error
  | _ => .warn

/-- The text of a notice. -/
def message : Notice → String
  | usingCpus count => s!"Using {count} available CPUs"
  | pinFailed core error => s!"Failed to pin worker to core {core}: {error.message}"
  | pinned core => s!"Pinned worker to core {core}"
  | socketFailed error =>
    s!"Could not create socket, dropping connect request: {error.message}"
  | connectFailed _ address error => s!"Connection to {address.text} is not done: {error.message}"
  | registerFailed _ address error =>
    s!"Could not register connection to {address.text}: {error.message}"
  | connectionClosedBy _ address => s!"Connection closed by {address.text}"
  | writeFailed _ address error => s!"Write to {address.text} failed, closing: {error.message}"
  | controlReadFailed worker error =>
    s!"{worker} Reading from control channel failed: {error.message}"
  | controlClosed worker => s!"{worker} Control channel closed"
  | unknownCommand worker byte =>
    s!"{worker} Unknown operation '{Text.escapedByte byte}' from control channel"
  | pollFailed worker error => s!"{worker} Reactor poll failed: {error.message}"
  | descriptorsExhausted limit reason =>
    s!"System socket table is full ({reason}), limit is {limit}; consider raising ulimit -n"
  | workerExit report =>
    s!"Exiting cpu thread {report.worker}: {report.openConnections} open_connections, " ++
      s!"{report.totalTransmitted} total_data_transmitted"
  | engineSummary workers attempts failures transmitted =>
    s!"Engine stopped: {workers} workers, {attempts} connection attempts, " ++
      s!"{failures} failures, {transmitted} bytes transmitted"
  | unknownConfiguration key value =>
    s!"Unknown configuration '{key}' with value {value.describe}"
  | wroteDefaults path => s!"Wrote default configuration to {path}"
  | couldNotWriteDefaults path error =>
    s!"Could not write default configuration to {path}: {error.message}"
  | requestedConnections count => s!"Requested {count} connections"
  | receivedSignal => "Received signal, stopping..."
  | receivedAnotherSignal => "Received another signal, exiting without draining"
  | transmittedInAll bytes workers => s!"Transmitted {bytes} bytes over {workers} workers"

/-- A line of the log: the word for the level, and the text. -/
def line (n : Notice) : String := n.level.word ++ " " ++ n.message

end Notice

end LoadGenerator
