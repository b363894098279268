/-
Serving the connections that are ready: one write each.

* **`SocketAnswer`** — what a socket answers when its connection is served;
* **`Worker.serve`** — serves one connection. A stopping worker closes it; otherwise its connect has
  to be through, and then one chunk is offered;
* **`Worker.serveReady`** — serves every connection that was ready when serving began, in order.
  Those that can go on are ready for the next turn.
-/
import LoadGenerator.Worker.Dial

namespace LoadGenerator

/-- What a socket answers when its connection is served. -/
structure SocketAnswer where
  status : ConnectStatus
  write : Except SystemError Nat

namespace Worker

/-- Closes a connection: its bytes go to the total. -/
def close (w : Worker) (t : Token) (cause : CloseCause) : Worker × List Act :=
  match w.connections.get? t with
  | none => (w, [])
  | some c =>
    ({ w with
        -- the only place where bytes are folded into the total
        connections := w.connections.remove t
        totalTransmitted := w.totalTransmitted + c.transmitted
        openConnections := w.openConnections - 1 },
      [.closed t c.entry c.transmitted cause])

/-- The worker with another state for a connection. -/
def setConnection (w : Worker) (t : Token) (c : Connection) : Worker :=
  { w with connections := w.connections.set t c }

/-- A connection that can go on is ready for the next turn. -/
def keepReady (w : Worker) (t : Token) : Worker := { w with ready := w.ready ++ [t] }

/-- A connection that was refused waits for the next event. -/
def park (w : Worker) (t : Token) (c : Connection) : Worker :=
  w.setConnection t { c with ready := false }

/-- Counts a failed write and closes the connection. A closed peer is told every time, any other
failure once for each entry. -/
def failWrite (w : Worker) (t : Token) (c : Connection) (e : SystemError) : Worker × List Act :=
  let (w, told) : Worker × List Act :=
    if e.kind = .brokenPipe then (w, [.told (.connectionClosedBy c.entry c.remote)])
    else if (w.roster.stats c.entry).writeFailureReported then (w, [])
    else
      (w.updateStats c.entry .claimWriteReport, [.told (.writeFailed c.entry c.remote e)])
  let (w, closed) := (w.updateStats c.entry .recordFailure).close t (.writeFailed e)
  (w, told ++ closed)

/-- Offers one chunk on a connection whose connect is through. -/
def writeChunk (w : Worker) (t : Token) (c : Connection) (write : Except SystemError Nat) :
    Worker × List Act :=
  -- the look-up wraps the cursor before anything is offered
  let c := c.seek w.payload
  let act := Act.wrote t c.entry c.cursor (w.payload.chunk c.cursor) write
  match write with
  | .ok count => ((w.setConnection t (c.record count)).keepReady t, [act])
  | .error e =>
    if e.kind = .wouldBlock then (w.park t c, [act])
    -- the peer has refused nothing, so the connection stays in the queue
    else if e.kind = .interrupted then ((w.setConnection t c).keepReady t, [act])
    else
      let (w, acts) := (w.setConnection t c).failWrite t c e
      (w, act :: acts)

/-- Serves one connection. A token without a connection is passed over. -/
def serve (w : Worker) (t : Token) (answer : SocketAnswer) : Worker × List Act :=
  if w.terminating then w.close t .terminating
  else
    match w.connections.get? t with
    | none => (w, [])
    | some c =>
      let (c, result) := c.finish answer.status
      let act := Act.probed t c.entry result
      match result with
      | .ok true =>
        let (w, acts) := w.writeChunk t c answer.write
        (w, act :: acts)
      | .ok false => (w.park t c, [act])
      | .error e =>
        -- the failure is told first, and the close comes behind it
        let (w, told) := w.countConnectFailure c.entry c.remote e
        let (w, closed) := w.close t (.connectFailed e)
        (w, act :: told ++ closed)

/-- Serves the connections of a batch, one after the other. -/
def serveEach (answers : Token → SocketAnswer) : List Token → Worker → Worker × List Act
  | [], w => (w, [])
  | t :: rest, w =>
    -- the batch that is left is what a service could still look at
    let (w, acts) := ({ w with batch := rest } : Worker).serve t (answers t)
    let (w, more) := serveEach answers rest w
    (w, acts ++ more)

/-- Serves every connection that is ready. The queue becomes the batch, and the emptied batch the
queue. -/
def serveReady (w : Worker) (answers : Token → SocketAnswer) : Worker × List Act :=
  serveEach answers w.ready { w with ready := w.batch, batch := w.ready }

end Worker

end LoadGenerator
