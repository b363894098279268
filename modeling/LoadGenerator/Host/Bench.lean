/-
One worker on a bench: it is turned by hand, on the host whose network leads nowhere.

* **`Bench`** — the worker and its control pipe, of whose read end the bench holds a handle too;
* **`Bench.turns`**, **`Bench.settle`** — turns of the worker, a number of them or until it has a
  number of open connections;
* **`Bench.handle`** — a command that does not come through the pipe;
* **`Bench.finish`** — the worker's run to its end.
-/
import LoadGenerator.Host.Basic

namespace LoadGenerator

/-- What kind of file stands in for the control pipe. -/
inductive ControlFile where
  | pipe
  /-- A regular file, which no poll takes. -/
  | regular
  /-- A file that is open for writing alone. It is reported readable, and then cannot be read. -/
  | writeOnly
  deriving DecidableEq, Repr

/-- A worker and the control pipe that it shares with the bench. -/
structure Bench where
  member : Member
  pipe : ControlPipe := { readers := 2 }
  /-- What the worker's reads of the pipe fail with. -/
  readFailure : Option SystemError := none

namespace Bench

/-- A bench with a new worker, when so many descriptors can be opened. -/
def ofSetup (setup : WorkerSetup) (room : Option Nat) (control : ControlFile) :
    Except EngineError Bench :=
  let answers :=
    { Host.creationAnswers room 0 with
      registration := if control = .regular then some .notPermitted else none }
  match Worker.create setup answers with
  | .error e => .error e
  | .ok worker =>
    .ok
      { member := { worker, edge := control = .writeOnly }
        readFailure := if control = .writeOnly then some .badDescriptor else none }

/-- The worker on the bench. -/
def worker (b : Bench) : Worker := b.member.worker

/-- One turn of the worker. -/
def turn (b : Bench) : Bench × List Act :=
  let t := b.member.turn b.pipe (Host.turnAnswers b.member b.readFailure)
  ({ b with member := t.member, pipe := t.pipe }, t.acts)

/-- Turns of the worker until it satisfies a condition, at most so many. -/
def turnsUntil (done : Worker → Bool) : (limit : Nat) → Bench → Bench × List Act
  | 0, b => (b, [])
  | limit + 1, b =>
    if done b.worker then (b, [])
    else
      let (b, acts) := b.turn
      let (b, more) := turnsUntil done limit b
      (b, acts ++ more)

/-- So many turns of the worker. -/
def turns (b : Bench) (count : Nat) : Bench × List Act := turnsUntil (fun _ => false) count b

/-- The number of turns after which the worker has nothing left to do: one for each byte on its way,
and two more. -/
def enoughTurns (b : Bench) : Nat := b.pipe.pending.length + 2

/-- Turns until the worker has so many open connections, or nothing left to do. -/
def settle (b : Bench) (count : Nat) : Bench × List Act :=
  turnsUntil (fun w => w.openConnections = count) b.enoughTurns b

/-- The worker acts on a command. -/
def handle (b : Bench) (c : Command) (dial : DialAnswers) : Bench × List Act × Option DialError :=
  let step := b.worker.handle c dial
  ({ b with member := { b.member with worker := step.worker } }, step.acts, step.fatal)

/-- Bytes into the pipe. -/
def write (b : Bench) (bytes : List UInt8) : Except SystemError Bench :=
  match b.pipe.write bytes with
  | .error e => .error e
  | .ok pipe => .ok { b with pipe, member := if bytes.isEmpty then b.member else b.member.notify }

/-- The bench reads a byte that the worker will not see. -/
def steal (b : Bench) : ControlRead × Bench :=
  let (read, pipe) := b.pipe.read
  (read, { b with pipe })

/-- The write end of the pipe is closed. -/
def closeWriter (b : Bench) : Bench :=
  if b.pipe.writerOpen then
    { b with pipe := b.pipe.closeWriter, member := b.member.notify }
  else b

/-- The worker's run to its end: it is told to stop if it was not yet, and leaves. -/
def finish (b : Bench) : WorkerReport × List Act :=
  let b :=
    if b.worker.terminating then b
    else
      match b.write [Command.terminateByte] with
      | .ok b => b
      | .error _ => b
  let (b, acts) := turnsUntil Worker.isFinished b.enoughTurns b
  let last := b.member.leave b.pipe
  (b.worker.report, acts ++ last.acts)

end Bench

end LoadGenerator
