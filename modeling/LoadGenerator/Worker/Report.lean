/-
What a worker leaves behind when its run is over.

* **`WorkerReport`** — the connections still open, the bytes sent, and the history of every address;
* **`WorkerReport.attempts`**, **`WorkerReport.failures`** — the histories summed up.
-/
import LoadGenerator.Roster

namespace LoadGenerator

/-- What a worker leaves behind: the connections still open, the bytes sent on those that were
closed, and the history of every address. -/
structure WorkerReport where
  worker : Nat
  openConnections : Nat
  totalTransmitted : Nat
  remotes : List RemoteStats
  deriving DecidableEq, Repr

namespace WorkerReport

/-- Attempts on all addresses together. -/
def attempts (r : WorkerReport) : Nat := total (r.remotes.map RemoteStats.attempts)

/-- Failures on all addresses together. -/
def failures (r : WorkerReport) : Nat := total (r.remotes.map RemoteStats.failures)

/-- Both sums fit into machine words. -/
def sumsFit (r : WorkerReport) : Bool := r.attempts < wordRange && r.failures < wordRange

end WorkerReport

end LoadGenerator
