/-
A host whose network leads nowhere, with as many descriptors as one likes.

On such a host every dial fails at once, so no connection is ever opened, and what a worker does
follows from its control pipe alone.

* **`Host.unreachable`**, **`Host.exhausted`** — how dials go, with descriptors and without;
* **`Host.loneSocket`** — a socket that was never connected;
* **`Host.startAnswers`** — how far an engine gets with a number of descriptors;
* **`Host.turnAnswers`** — a turn of a worker.
-/
import LoadGenerator.Engine.Supervisor

namespace LoadGenerator.Host

/-- A dial: the connect fails, as there is no route. -/
def unreachable : DialAnswers := { connect := some .networkUnreachable }

/-- A dial without a descriptor left. -/
def exhausted : DialAnswers := { socket := some .tooManyOpenFiles }

/-- A socket that was never connected: it has no peer, and nobody reads what is written. -/
def loneSocket : SocketAnswer :=
  { status := { pendingError := none, peer := some .notConnected }, write := .error .brokenPipe }

/-- The failure to open a descriptor when `used` of `room` are taken. Without a limit there is
none. -/
def openFailure? (room : Option Nat) (used : Nat) : Option SystemError :=
  match room with
  | some n => if used < n then none else some .tooManyOpenFiles
  | none => none

/-- The creation of a worker when `used` descriptors are taken: its poll needs one. -/
def creationAnswers (room : Option Nat) (used : Nat) : CreationAnswers :=
  { poll := openFailure? room used }

/-- The start of an engine: the pipe needs two descriptors, and every worker one. -/
def startAnswers (processors : Nat) (room : Option Nat := none) : StartAnswers :=
  { processors
    pipe := openFailure? room 1
    hire := fun i => { creation := creationAnswers room (2 + i) } }

/-- A turn of a member: its poll delivers the event of the pipe if there is one. -/
def turnAnswers (m : Member) (readFailure : Option SystemError := none) : MemberAnswers :=
  { poll := .ok (if m.edge then [controlToken] else [])
    readFailure
    dial := unreachable
    sockets := fun _ => loneSocket }

end LoadGenerator.Host
