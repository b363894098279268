/-
Signals from outside that end the program.

* **`SignalAction`** — stop in good order, or leave at once;
* **`SignalAction.ofCount`** — the first signal stops, every later one leaves;
* **`StopChannel`** — carries the word to stop to the load. A word sent while nobody listens is
  gone;
* **`Watch`**, **`Watch.step`** — the main task and the signal task side by side: their steps come
  in any order, except that signals are handled only while the signal task is there.
-/
import LoadGenerator.Notice

namespace LoadGenerator

/-- What a signal brings about. -/
inductive SignalAction where
  /-- Issue no more commands and shut the engine down. -/
  | stop
  /-- The shutdown is stuck: leave now. -/
  | exit
  deriving DecidableEq, Repr

/-- The action for the signal that is the `received`-th one. -/
def SignalAction.ofCount (received : Nat) : SignalAction :=
  if received ≤ 1 then stop else exit

/-- The way of the word to stop, from the signal task to the load. -/
structure StopChannel where
  /-- The load listens. -/
  listening : Bool := false
  /-- A word has been sent that the load has not taken yet. -/
  waiting : Bool := false
  deriving DecidableEq, Repr

namespace StopChannel

/-- The load listens from now on. It gets no word that was sent before. -/
def listen (_ : StopChannel) : StopChannel := { listening := true, waiting := false }

/-- The word to stop is sent. It reaches the load only if that listens. -/
def send (c : StopChannel) : StopChannel := if c.listening then { c with waiting := true } else c

end StopChannel

/-- The main task and the signal task, as far as signals concern them. -/
structure Watch where
  /-- The signal task is there. -/
  watching : Bool := false
  /-- The number of signals handled. -/
  received : Nat := 0
  channel : StopChannel := {}
  /-- The main task is through with the load and waits for no word to stop any more. -/
  waited : Bool := false
  /-- The process has left without draining. -/
  gone : Bool := false
  deriving DecidableEq, Repr

/-- A step of one of the two tasks. -/
inductive WatchStep where
  /-- The main task starts the signal task. -/
  | spawn
  /-- The main task has the load listen. -/
  | listen
  /-- The main task is through with the load. -/
  | finish
  /-- The signal task handles a signal. -/
  | signal
  deriving DecidableEq, Repr

namespace Watch

/-- A signal is handled: the action for it, and what is told. -/
def handleSignal (w : Watch) : Watch × List Notice :=
  let w := { w with received := w.received + 1 }
  match SignalAction.ofCount w.received with
  | .stop => ({ w with channel := w.channel.send }, [.receivedSignal])
  | .exit => ({ w with gone := true }, [.receivedAnotherSignal])

/-- What a step makes of the two tasks, and what is told. When the process has left there are no
more steps. -/
def step (w : Watch) (s : WatchStep) : Watch × List Notice :=
  if w.gone then (w, [])
  else
    match s with
    | .spawn => ({ w with watching := true }, [])
    | .listen => ({ w with channel := w.channel.listen }, [])
    | .finish => ({ w with waited := true }, [])
    | .signal => if w.watching then w.handleSignal else (w, [])

/-- Several steps, one after the other. -/
def steps (w : Watch) : List WatchStep → Watch × List Notice
  | [] => (w, [])
  | s :: rest =>
    let (w, notices) := w.step s
    let (w, more) := w.steps rest
    (w, notices ++ more)

/-- The load would be told to stop if it looked now. -/
def stopIsReady (w : Watch) : Bool := w.channel.waiting

end Watch

end LoadGenerator
