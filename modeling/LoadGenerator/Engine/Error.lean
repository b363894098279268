/-
Why an engine cannot start, or does not hand back its reports; and why a worker gives up dialing.

* **`EngineError`** — the causes, with **`EngineError.message`**, the system error behind them, and
  **`EngineError.inFull`**, the form shown when the failure ends the program;
* **`DialError`** — a failure to dial that a worker cannot absorb: there are no descriptors left;
* **`DialError.classify`** — tells such failures from those that only cost the one dial.
-/
import LoadGenerator.SystemError.Detail

namespace LoadGenerator

/-- Why an engine fails. -/
inductive EngineError where
  | emptyRoster
  | emptyPayload
  | controlChannel (error : SystemError)
  | poll (error : SystemError)
  | spawn (worker : Nat) (error : SystemError)
  | workerPanicked (worker : Nat)
  deriving DecidableEq, Repr

namespace EngineError

/-- The text shown for a failure. -/
def message : EngineError → String
  | emptyRoster => "address roster is empty"
  | emptyPayload => "payload must contain at least one byte"
  | controlChannel e => s!"could not create control channel: {e.message}"
  | poll e => s!"could not create reactor: {e.message}"
  | spawn worker e => s!"could not spawn worker {worker}: {e.message}"
  | workerPanicked worker => s!"worker {worker} panicked"

/-- The system error behind a failure, where there is one. -/
def source? : EngineError → Option SystemError
  | controlChannel e | poll e | spawn _ e => some e
  | emptyRoster | emptyPayload | workerPanicked _ => none

/-- The name of a cause. -/
def word : EngineError → String
  | emptyRoster => "EmptyRoster"
  | emptyPayload => "EmptyPayload"
  | controlChannel _ => "ControlChannel"
  | poll _ => "Poll"
  | spawn .. => "Spawn"
  | workerPanicked _ => "WorkerPanicked"

/-- A cause by name, with all that belongs to it. -/
def inFull (e : EngineError) : String :=
  match e with
  | emptyRoster | emptyPayload => e.word
  | controlChannel error | poll error => e.word ++ "(" ++ error.inFull ++ ")"
  | spawn worker error =>
    Text.record e.word [("index", toString worker), ("source", error.inFull)]
  | workerPanicked worker => Text.record e.word [("index", toString worker)]

end EngineError

/-- A failure to dial that a worker cannot absorb. -/
inductive DialError where
  | descriptorsExhausted (error : SystemError)
  deriving DecidableEq, Repr

namespace DialError

/-- The text shown for a failure. -/
def message : DialError → String
  | descriptorsExhausted e => s!"socket table is full: {e.message}"

/-- Hands back a failure to make a socket that only costs the one dial. -/
def classify (e : SystemError) : Except DialError SystemError :=
  if e.exhaustsDescriptors then .error (descriptorsExhausted e) else .ok e

end DialError

end LoadGenerator
