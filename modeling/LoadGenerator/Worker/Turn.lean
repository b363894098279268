/-
One turn of a worker: a poll, at most one control byte, and one write for every ready connection.

Reading a single byte leaves the rest of a burst to the other workers that the same event woke.

* **`Worker.observe`** — takes note of an event;
* **`Worker.readControl`** — one byte of the control pipe, if it may have one;
* **`Worker.turn`** — the whole turn;
* **`Worker.run`** — turns until the worker is finished, or cannot go on.
-/
import LoadGenerator.Worker.Service

namespace LoadGenerator

/-- What the system answers in the course of a turn. -/
structure TurnAnswers where
  /-- The tokens of the events, or why the poll failed. -/
  poll : Except SystemError (List Token)
  /-- What a read of the control pipe would give. -/
  control : ControlRead
  /-- How a dial would go. -/
  dial : DialAnswers
  /-- What each socket would answer. -/
  sockets : Token → SocketAnswer

/-- How a turn ends. -/
inductive TurnEnd where
  /-- The worker can take another turn. -/
  | done
  | pollFailed (error : SystemError)
  /-- The process has no descriptors left. -/
  | exhausted (error : DialError)
  deriving DecidableEq, Repr

/-- A worker after a turn, what it did, and how the turn ended. -/
structure Turn where
  worker : Worker
  acts : List Act
  ending : TurnEnd

namespace Worker

/-- A connection that was reported ready joins the queue, unless it is there already. -/
def markReady (w : Worker) (t : Token) : Worker :=
  match w.connections.get? t with
  | none => w
  | some c =>
    if c.ready then w else (w.setConnection t { c with ready := true }).keepReady t

/-- Takes note of the event of a token. -/
def observe (w : Worker) (t : Token) : Worker :=
  -- after the word to stop the pipe is not registered, and an event of it is a stale one
  if t = controlToken then { w with controlReady := w.controlRegistered } else w.markReady t

/-- Takes note of several events, in order. -/
def observeAll (w : Worker) (events : List Token) : Worker := events.foldl observe w

/-- The worker would read the control pipe now. -/
def readsControl (w : Worker) : Bool := w.controlReady && !w.terminating

/-- Reads one byte of the control pipe, if the pipe may hold one, and acts on it. -/
def readControl (w : Worker) (read : ControlRead) (dial : DialAnswers) : Step :=
  if !w.readsControl then { worker := w }
  else
    let act := Act.readControl read
    match read with
    | .closed =>
      { worker := { w with controlReady := false }
        acts := [act, .told (.controlClosed w.index)] }
    | .byte b =>
      let step := w.handle (Command.ofByte b) dial
      { step with acts := act :: step.acts }
    | .failed e =>
      -- the pipe is empty for now; the flag comes back with the next event
      if e.kind = .wouldBlock then { worker := { w with controlReady := false }, acts := [act] }
      else if e.kind = .interrupted then { worker := w, acts := [act] }
      else
        { worker := { w with controlReady := false }
          acts := [act, .told (.controlReadFailed w.index e)] }

/-- What follows the poll in a turn. -/
def act (w : Worker) (answers : TurnAnswers) : Turn :=
  let step := w.readControl answers.control answers.dial
  match step.fatal with
  | some e => ⟨step.worker, step.acts, .exhausted e⟩
  | none =>
    let (w, acts) := step.worker.serveReady answers.sockets
    ⟨w, step.acts ++ acts, .done⟩

/-- One turn. An interrupted poll counts as one without events. -/
def turn (w : Worker) (answers : TurnAnswers) : Turn :=
  match answers.poll with
  | .ok events => (w.observeAll events).act answers
  | .error e =>
    -- the flags are as they were, so what was ready before is served all the same
    if e.kind = .interrupted then w.act answers else ⟨w, [], .pollFailed e⟩

/-- How a run ends. -/
inductive RunEnd where
  /-- The worker was told to stop and owns no connection any more. -/
  | finished
  | pollFailed (error : SystemError)
  | exhausted (error : DialError)
  /-- The answers were used up first. -/
  | unfinished
  deriving DecidableEq, Repr

/-- A worker after a run, what it did, and how the run ended. -/
structure Run where
  worker : Worker
  acts : List Act
  ending : RunEnd

/-- What a worker tells when its run is over. -/
def farewell (w : Worker) : Act := .told (.workerExit w.report)

/-- Turns, one for each of the answers, until the worker is finished or cannot go on. A failed poll
is told and ends the run in good order; a lack of descriptors ends the process. -/
def run (w : Worker) : List TurnAnswers → Run
  | [] =>
    if w.isFinished then ⟨w, [w.farewell], .finished⟩ else ⟨w, [], .unfinished⟩
  | answers :: rest =>
    if w.isFinished then ⟨w, [w.farewell], .finished⟩
    else
      let turn := w.turn answers
      match turn.ending with
      | .done =>
        let run := turn.worker.run rest
        { run with acts := turn.acts ++ run.acts }
      | .pollFailed e =>
        ⟨turn.worker, turn.acts ++ [.told (.pollFailed w.index e), turn.worker.farewell],
          .pollFailed e⟩
      | .exhausted e => ⟨turn.worker, turn.acts, .exhausted e⟩

end Worker

end LoadGenerator
