/-
An engine: several workers that share one control pipe.

* **`Member`** — a worker with the edge-triggered event of the pipe that its poll has not delivered
  yet, and what has become of its thread;
* **`Member.turn`**, **`Member.leave`** — a member at the pipe: one turn of its worker, and the end
  of its thread;
* **`Engine`** — the pipe and the crew;
* **`Action`**, **`Engine.apply`** — what can happen to an engine, one thing at a time: bytes are
  written, the write end is closed, a worker takes a turn, a finished worker's thread ends. Every
  interleaving of the workers is a list of actions.
-/
import LoadGenerator.Worker.Turn

namespace LoadGenerator

/-- What has become of a worker's thread. -/
inductive MemberStatus where
  | running
  | exited (report : WorkerReport)
  | panicked
  deriving DecidableEq, Repr

/-- A worker of an engine. -/
structure Member where
  worker : Worker
  /-- The pipe has changed since the poll last delivered an event of it. -/
  edge : Bool := false
  status : MemberStatus := .running

namespace Member

/-- The worker's thread is still there. -/
def isRunning (m : Member) : Bool := m.status = .running

/-- The report that the worker left, if its thread came to an end. -/
def report? (m : Member) : Option WorkerReport :=
  match m.status with
  | .exited r => some r
  | _ => none

/-- A change of the pipe leaves an event for every worker that has the pipe registered. -/
def notify (m : Member) : Member :=
  if m.isRunning && m.worker.controlRegistered then { m with edge := true } else m

end Member

/-- What the system answers in the course of a member's turn. The read of the pipe is left to the
pipe, unless it fails. -/
structure MemberAnswers where
  poll : Except SystemError (List Token)
  readFailure : Option SystemError := none
  dial : DialAnswers
  sockets : Token → SocketAnswer

/-- A member and the pipe after a turn, what was done in it, and how it ended. -/
structure MemberTurn where
  member : Member
  pipe : ControlPipe
  acts : List Act := []
  ending : TurnEnd := .done

namespace MemberAnswers

/-- The poll delivers the event of the pipe. -/
def deliversEdge (a : MemberAnswers) : Bool :=
  match a.poll with
  | .ok events => events.contains controlToken
  | .error _ => false

/-- A worker as the poll leaves it, before it reads the pipe. -/
def polled (a : MemberAnswers) (w : Worker) : Worker :=
  match a.poll with
  | .ok events => w.observeAll events
  | .error _ => w

/-- What a worker would read from the pipe in its turn, and the pipe behind it. A worker that does
not read leaves the pipe alone, and so does a read that fails. -/
def readFrom (a : MemberAnswers) (pipe : ControlPipe) (w : Worker) : ControlRead × ControlPipe :=
  match a.readFailure with
  | some e => (.failed e, pipe)
  | none => if (a.polled w).readsControl then pipe.read else (.failed .tryAgain, pipe)

end MemberAnswers

namespace Member

/-- The thread of a member ends: the worker leaves its report and closes its handle of the pipe. -/
def finish (m : Member) (pipe : ControlPipe) : MemberTurn :=
  { member := { m with status := .exited m.worker.report }
    pipe := pipe.closeReader
    acts := [m.worker.farewell] }

/-- A turn of a member, if it is running and not finished. A failed poll ends its thread. -/
def turn (m : Member) (pipe : ControlPipe) (answers : MemberAnswers) : MemberTurn :=
  if m.isRunning && !m.worker.isFinished then
    let (read, readPipe) := answers.readFrom pipe m.worker
    let turn := m.worker.turn
      { poll := answers.poll, control := read, dial := answers.dial, sockets := answers.sockets }
    -- an edge that came in the meantime is not lost: only a delivered one is taken back
    let m := { m with worker := turn.worker, edge := m.edge && !answers.deliversEdge }
    match turn.ending with
    | .pollFailed e =>
      let last := m.finish pipe
      { last with
        acts := turn.acts ++ .told (.pollFailed m.worker.index e) :: last.acts
        ending := turn.ending }
    | ending => { member := m, pipe := readPipe, acts := turn.acts, ending }
  else { member := m, pipe }

/-- The end of a member's thread, if it is running and finished. -/
def leave (m : Member) (pipe : ControlPipe) : MemberTurn :=
  if m.isRunning && m.worker.isFinished then m.finish pipe else { member := m, pipe }

end Member

/-- Workers that share a control pipe. -/
structure Engine where
  pipe : ControlPipe := {}
  crew : List Member := []
  /-- The number of workers for which the supervisor still owes a terminate byte. -/
  unstopped : Nat := 0

/-- What can happen to an engine. -/
inductive Action where
  | write (bytes : List UInt8)
  | closeWriter
  | turn (i : Nat) (answers : MemberAnswers)
  | leave (i : Nat)

namespace Engine

/-- Bytes into the control pipe. -/
def write (e : Engine) (bytes : List UInt8) : Except SystemError Engine :=
  match e.pipe.write bytes with
  | .error err => .error err
  | .ok pipe =>
    -- a write of no bytes makes no edge
    if bytes.isEmpty then .ok { e with pipe }
    else .ok { e with pipe, crew := e.crew.map Member.notify }

/-- The write end of the control pipe is closed. Closing it a second time changes nothing. -/
def closeWriter (e : Engine) : Engine :=
  if e.pipe.writerOpen then
    { e with pipe := e.pipe.closeWriter, crew := e.crew.map Member.notify }
  else e

/-- The engine after a turn of member `i`. -/
def afterTurn (e : Engine) (i : Nat) (t : MemberTurn) : Engine :=
  { e with pipe := t.pipe, crew := e.crew.set i t.member }

/-- Member `i` takes a turn, if it is running and not finished. -/
def turn (e : Engine) (i : Nat) (answers : MemberAnswers) : Engine × List Act × TurnEnd :=
  match e.crew[i]? with
  | some m =>
    let t := m.turn e.pipe answers
    (e.afterTurn i t, t.acts, t.ending)
  | none => (e, [], .done)

/-- Member `i` leaves, if it is running and finished. -/
def leave (e : Engine) (i : Nat) : Engine × List Act :=
  match e.crew[i]? with
  | some m =>
    let t := m.leave e.pipe
    (e.afterTurn i t, t.acts)
  | none => (e, [])

/-- What an action makes of an engine, and what the workers did. A write that is refused changes
nothing. -/
def apply (e : Engine) : Action → Engine × List Act
  | .write bytes =>
    match e.write bytes with
    | .ok e => (e, [])
    | .error _ => (e, [])
  | .closeWriter => (e.closeWriter, [])
  | .turn i answers =>
    let (e, acts, _) := e.turn i answers
    (e, acts)
  | .leave i => e.leave i

/-- Several actions, one after the other. -/
def applyAll (e : Engine) : List Action → Engine × List Act
  | [] => (e, [])
  | a :: rest =>
    let (e, acts) := e.apply a
    let (e, more) := e.applyAll rest
    (e, acts ++ more)

end Engine

end LoadGenerator
