/-
Dialing: from a connect command to a connection that is on its way.

* **`DialAnswers`** — what the system answers at each step of a dial;
* **`Worker.dial`** — picks an address, counts the attempt and goes through the steps. Only a lack
  of descriptors escapes; a failed connect counts as a failure of the address, and every other
  failure costs the attempt alone.
-/
import LoadGenerator.Worker.Basic

namespace LoadGenerator

/-- What the system answers to the steps of a dial: making the socket, making it non-blocking,
connecting it, and registering it with the poll. Each may fail. -/
structure DialAnswers where
  socket : Option SystemError := none
  nonblocking : Option SystemError := none
  connect : Option SystemError := none
  registration : Option SystemError := none
  deriving DecidableEq, Repr

namespace DialAnswers

/-- The failure of the connect. One that goes on in the background has not failed. -/
def connectFailure? (a : DialAnswers) : Option SystemError :=
  a.connect.filter fun e => e ≠ .connectInProgress

/-- How the dial ends under these answers, if it opens the connection of `token`. -/
def result (a : DialAnswers) (token : Token) : DialResult :=
  match a.socket with
  | some e => if e.exhaustsDescriptors then .exhausted e else .noSocket e
  | none =>
    match a.nonblocking with
    | some e => .noSocket e
    | none =>
      match a.connectFailure? with
      | some e => .failed e
      | none =>
        match a.registration with
        | some e => .unregistered e
        | none => .opened token

end DialAnswers

/-- A worker's next state, what it did, and the error that ends the process, if there is one. -/
structure Step where
  worker : Worker
  acts : List Act := []
  fatal : Option DialError := none

namespace Worker

/-- The worker with the history of an entry changed. -/
def updateStats (w : Worker) (entry : Nat) (f : RemoteStats → RemoteStats) : Worker :=
  { w with roster := w.roster.updateStats entry f }

/-- Counts a failed connect to an entry, and tells the first one. -/
def countConnectFailure (w : Worker) (entry : Nat) (address : SocketAddress) (e : SystemError) :
    Worker × List Act :=
  let w := w.updateStats entry .recordFailure
  let acts :=
    if (w.roster.stats entry).isFirstFailure then [.told (.connectFailed entry address e)] else []
  (w, acts)

/-- Dials the next address of the roster. -/
def dial (w : Worker) (answers : DialAnswers) : Step :=
  let (pick, roster) := w.roster.selectNext
  let entry := pick.val
  let address := w.roster.address pick
  -- the attempt counts from the pick on, however the dial ends
  let w := { w with roster := roster.updateStats entry .recordAttempt }
  let result := answers.result w.nextToken
  let act := Act.dialed entry result
  match result with
  | .exhausted e => { worker := w, acts := [act], fatal := some (.descriptorsExhausted e) }
  | .noSocket e => { worker := w, acts := [act, .told (.socketFailed e)] }
  | .failed e =>
    let (w, told) := w.countConnectFailure entry address e
    { worker := w, acts := act :: told }
  | .unregistered e =>
    -- the token is used up all the same
    { worker := { w with nextToken := w.nextToken + 1 }
      acts := [act, .told (.registerFailed entry address e)] }
  | .opened token =>
    { worker :=
        { w with
          nextToken := w.nextToken + 1
          connections := w.connections.add token { remote := address, entry }
          openConnections := w.openConnections + 1 }
      acts := [act] }

/-- The worker stops: it reads no more commands and closes its connections as they become ready. -/
def beginTerminating (w : Worker) : Worker :=
  { w with terminating := true, controlReady := false, controlRegistered := false }

/-- Acts on a command. The answers are used by a connect alone. -/
def handle (w : Worker) (c : Command) (answers : DialAnswers) : Step :=
  match c with
  | .connect => w.dial answers
  | .terminate => { worker := w.beginTerminating }
  | .unknown b => { worker := w, acts := [.told (.unknownCommand w.index b)] }

end Worker

end LoadGenerator
