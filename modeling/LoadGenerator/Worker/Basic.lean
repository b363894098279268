/-
A worker: the connections it owns, and its private view of the addresses.

A worker is a plain value. What the system answers — which sockets are ready, what a read, a connect
or a write gives — comes in as data, and what the worker did comes out beside its next state.

* **`Worker`** — the state;
* **`Connections`** — the live connections by token, in the order in which they were opened;
* **`Act`** — one thing that a worker did;
* **`Worker.create`** — a worker with a roster and a registered control pipe;
* **`Worker.isFinished`**, **`Worker.report`** — when it is done, and what it leaves behind.
-/
import LoadGenerator.Connection
import LoadGenerator.ControlPipe
import LoadGenerator.Engine.Error
import LoadGenerator.Notice

namespace LoadGenerator

/-- The number under which an event source is known to a worker's poll. -/
abbrev Token := Nat

/-- The token of the control pipe. -/
def controlToken : Token := 0

/-- The first token of a connection. -/
def firstConnectionToken : Token := 1

/-- Live connections by token, in the order in which they were opened. -/
abbrev Connections := List (Token × Connection)

namespace Connections

/-- The connection of a token. -/
def get? (cs : Connections) (t : Token) : Option Connection :=
  (cs.find? fun e => e.1 = t).map Prod.snd

/-- One more connection under a new token. -/
def add (cs : Connections) (t : Token) (c : Connection) : Connections := cs ++ [(t, c)]

/-- Another state for the connection of a token. -/
def set (cs : Connections) (t : Token) (c : Connection) : Connections :=
  cs.map fun e => if e.1 = t then (t, c) else e

/-- The connections without the one of a token. -/
def remove (cs : Connections) (t : Token) : Connections := cs.filter fun e => e.1 ≠ t

/-- The bytes sent on all connections together. -/
def transmitted (cs : Connections) : Nat := total (cs.map fun e => e.2.transmitted)

theorem get?_add (cs : Connections) (s t : Token) (c : Connection) :
    (cs.add s c).get? t = (cs.get? t).or (if s = t then some c else none) := by
  unfold add get?
  rw [List.find?_append]
  cases h : List.find? (fun e => decide (e.1 = t)) cs <;> by_cases hst : s = t <;> simp [hst]

theorem get?_remove (cs : Connections) (s t : Token) :
    (cs.remove s).get? t = if s = t then none else cs.get? t := by
  induction cs with
  | nil => simp [remove, get?]
  | cons e cs ih =>
    simp only [remove, get?] at ih ⊢
    by_cases hs : e.1 = s <;> by_cases ht : e.1 = t <;> grind

end Connections

/-- How a dial ended. -/
inductive DialResult where
  /-- No descriptor was left; the process cannot go on. -/
  | exhausted (error : SystemError)
  /-- The socket could not be made, or not be made non-blocking. -/
  | noSocket (error : SystemError)
  /-- The connect failed at once. -/
  | failed (error : SystemError)
  /-- The socket could not be registered with the poll. -/
  | unregistered (error : SystemError)
  /-- A connection is on its way under a token. -/
  | opened (token : Token)
  deriving DecidableEq, Repr

/-- Why a worker closed a connection. -/
inductive CloseCause where
  | terminating
  | connectFailed (error : SystemError)
  | writeFailed (error : SystemError)
  deriving DecidableEq, Repr

/-- One thing that a worker did. -/
inductive Act where
  /-- It read the control pipe. -/
  | readControl (result : ControlRead)
  /-- It picked a roster entry and dialed its address. -/
  | dialed (entry : Nat) (result : DialResult)
  /-- It asked whether the connect of a token is through. -/
  | probed (token : Token) (entry : Nat) (result : Except SystemError Bool)
  /-- It offered the chunk that begins at a position, and so many bytes of it were taken. -/
  | wrote (token : Token) (entry : Nat) (position : Nat) (chunk : Array UInt8)
    (result : Except SystemError Nat)
  /-- It closed a connection that had sent so many bytes. -/
  | closed (token : Token) (entry : Nat) (transmitted : Nat) (cause : CloseCause)
  /-- It told the log something. -/
  | told (notice : Notice)

/-- What an act told the log. -/
def Act.notice? : Act → Option Notice
  | told n => some n
  | _ => none

/-- What acts told the log, in order. -/
def noticesOf (acts : List Act) : List Notice := acts.filterMap Act.notice?

/-- What a worker is made from. -/
structure WorkerSetup where
  index : Nat
  addresses : Array SocketAddress
  payload : Payload
  maxEvents : Nat

/-- One reactor with the connections it owns. -/
structure Worker where
  index : Nat
  payload : Payload
  roster : Roster
  /-- The control pipe is registered with the poll. -/
  controlRegistered : Bool := true
  /-- The control pipe was reported readable and has not been drained since. -/
  controlReady : Bool := false
  connections : Connections := []
  nextToken : Token := firstConnectionToken
  /-- The connections to serve in the next turn, in order. -/
  ready : List Token := []
  /-- The connections still to serve in this turn; none between turns. -/
  batch : List Token := []
  maxEvents : Nat
  /-- Bytes sent on connections that were closed. -/
  totalTransmitted : Nat := 0
  openConnections : Nat := 0
  /-- The worker was told to stop. -/
  terminating : Bool := false

/-- What the system answers while a worker is made: whether the poll can be created, and whether the
control pipe can be registered with it. -/
structure CreationAnswers where
  poll : Option SystemError := none
  registration : Option SystemError := none
  deriving Repr

namespace Worker

/-- A worker that owns no connection yet. Its picks start at its own index. -/
def create (setup : WorkerSetup) (answers : CreationAnswers) : Except EngineError Worker :=
  match answers.poll with
  | some e => .error (.poll e)
  | none =>
    match Roster.ofAddresses? setup.addresses setup.index.toUInt64 with
    | none => .error .emptyRoster
    | some roster =>
      match answers.registration with
      | some e => .error (.poll e)
      | none =>
        .ok
          { index := setup.index
            payload := setup.payload
            roster
            maxEvents := max setup.maxEvents 1 }

/-- The worker was told to stop and owns no connection any more. -/
def isFinished (w : Worker) : Bool := w.terminating && w.connections.isEmpty

/-- Bytes sent on connections that are still open. -/
def liveTransmitted (w : Worker) : Nat := w.connections.transmitted

/-- What the worker leaves behind. -/
def report (w : Worker) : WorkerReport :=
  { worker := w.index
    openConnections := w.openConnections
    totalTransmitted := w.totalTransmitted
    remotes := w.roster.snapshot }

/-- The next poll may wait as long as the caller likes: nothing is left to do without an event. -/
def pollMayWait (w : Worker) : Bool := w.ready.isEmpty && !w.controlReady

end Worker

end LoadGenerator
