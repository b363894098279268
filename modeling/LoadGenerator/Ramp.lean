/-
Asking for connections at the configured pace, and holding the load.

* **`Ramp.period`** — the time between two commands, in nanoseconds: the floating-point quotient of
  one second by the rate, rounded to the nearest nanosecond. Rates from two thousand million on have
  none;
* **`Ramp.start`**, **`Ramp.step`** — the ramp as a state that ticks of the clock and a stop move
  on;
* **`Ramp.run`** — the whole course under a list of such events.
-/
import LoadGenerator.Config.Settings
import LoadGenerator.ControlPipe
import LoadGenerator.Notice
import LoadGenerator.Number.Binary64

namespace LoadGenerator

/-- What the ramp waits for. -/
inductive RampEvent where
  /-- The next command is due. -/
  | tick
  /-- The load is to stop. -/
  | stop
  /-- The load has been held for as long as it should. -/
  | elapsed
  deriving DecidableEq, Repr

/-- Where a ramp stands. -/
inductive RampPhase where
  /-- So many commands are still to be issued. -/
  | pacing (remaining : Nat)
  /-- All commands are issued, and the load is held. -/
  | holding
  | ended
  deriving DecidableEq, Repr

/-- A ramp, the connections it has asked for, and what it told. -/
structure Ramp where
  phase : RampPhase
  asked : Nat := 0
  notices : List Notice := []

namespace Ramp

/-- The nanoseconds of a second. -/
def nanosecondsPerSecond : Nat := 1000000000

/-- The time between two commands at a rate that is not zero, in nanoseconds. -/
def period (rate : Nat) : Nat :=
  let x := Binary64.ofRatio false 1 rate
  Binary64.roundScaled (x.significand * nanosecondsPerSecond) 1 (-x.exponent)

/-- All commands of the load are issued: this is told, and the holding begins. -/
def beginHolding (r : Ramp) (connections : Nat) : Ramp :=
  { r with phase := .holding, notices := r.notices ++ [.requestedConnections connections] }

/-- The beginning of a ramp. With a rate of zero everything is asked for at once. A rate whose
period is no time at all has no ramp. -/
def start? (load : Load) : Option Ramp :=
  if load.connectRate = 0 then
    some (({ phase := .holding, asked := load.connections } : Ramp).beginHolding load.connections)
  else if period load.connectRate = 0 then none
  else if load.connections = 0 then some (({ phase := .holding } : Ramp).beginHolding 0)
  else some { phase := .pacing load.connections }

/-- What an event makes of a ramp. A stop while commands are still due skips the holding. -/
def step (connections : Nat) (r : Ramp) (e : RampEvent) : Ramp :=
  match r.phase, e with
  | .pacing (remaining + 1), .tick =>
    let r := { r with asked := r.asked + 1, phase := .pacing remaining }
    if remaining = 0 then r.beginHolding connections else r
  | .pacing _, .stop => { r with phase := .ended }
  | .holding, .stop => { r with phase := .ended }
  | .holding, .elapsed => { r with phase := .ended }
  | _, _ => r

/-- A ramp under a list of events. -/
def run (connections : Nat) (r : Ramp) (events : List RampEvent) : Ramp :=
  events.foldl (step connections) r

/-- The bytes that a ramp has written to the control pipe. -/
def commands (r : Ramp) : List UInt8 := List.replicate r.asked Command.connectByte

end Ramp

end LoadGenerator
