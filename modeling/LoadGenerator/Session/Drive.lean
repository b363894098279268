/-
Driving a load: the ramp writes its commands to a started engine, under the eye of the signal task.

* **`SessionEvent`** — what can happen meanwhile;
* **`Load.undisturbed`** — the events of a load that nobody stops;
* **`Drive`**, **`drive`** — the course of the load. The word to stop is taken only when it has
  come, and the drive is over as soon as the ramp is.
-/
import LoadGenerator.Host.Rounds
import LoadGenerator.Ramp
import LoadGenerator.Session.Basic
import LoadGenerator.Signal

namespace LoadGenerator

/-- What can happen while a load is driven. -/
inductive SessionEvent where
  | ramp (event : RampEvent)
  /-- A signal is handled. -/
  | signal
  deriving DecidableEq, Repr

/-- The events of a load that nobody stops: a tick for each connection, and the time to hold
them. -/
def Load.undisturbed (l : Load) : List SessionEvent :=
  List.replicate l.connections (.ramp .tick) ++ [.ramp .elapsed]

/-- The nanoseconds until the next event of a ramp that nobody stops. The first command is due at
once. -/
def Ramp.wait (load : Load) (r : Ramp) : Nat :=
  match r.phase with
  | .pacing _ => if r.asked = 0 then 0 else period load.connectRate
  | .holding => load.duration * nanosecondsPerSecond
  | .ended => 0

/-- The ramp, the engine that it steers, and the signals. -/
structure Steering where
  ramp : Ramp
  engine : Engine
  watch : Watch

namespace Steering

/-- The ramp goes on to a later state: the commands that it issues on the way are written, and the
workers act on them. -/
def advance (s : Steering) (ramp : Ramp) : Except SystemError (Steering × List Notice) :=
  -- a ramp counts what it has asked for from its beginning on
  let commands := List.replicate (ramp.asked - s.ramp.asked) Command.connectByte
  match s.engine.write commands with
  | .error e => .error e
  | .ok engine =>
    let (engine, acts) := engine.drain
    .ok ({ s with ramp, engine }, noticesOf acts ++ ramp.notices.drop s.ramp.notices.length)

/-- What an event makes of it all. A word to stop that was not sent is not heard. -/
def step (load : Load) (s : Steering) : SessionEvent → Except SystemError (Steering × List Notice)
  | .signal =>
    let (watch, notices) := s.watch.step .signal
    .ok ({ s with watch }, notices)
  | .ramp e =>
    if e = .stop ∧ s.watch.stopIsReady = false then .ok (s, [])
    else s.advance (s.ramp.step load.connections e)

end Steering

/-- The course of a load, and the engine it leaves or how it ends the session. -/
structure Drive where
  stretches : List Stretch
  outcome : Except Ending Engine

namespace Drive

/-- The course with a stretch in front. -/
def precededBy (d : Drive) (stretch : Stretch) : Drive :=
  { d with stretches := stretch :: d.stretches }

/-- The course from a state on, under a list of events. -/
def goOn (load : Load) (events : List SessionEvent) (s : Steering) : Drive :=
  if s.watch.gone then ⟨[], .error .gone⟩
  else if s.ramp.phase = .ended then ⟨[], .ok s.engine⟩
  else
    match events with
    | [] => ⟨[], .error .unfinished⟩
    | e :: rest =>
      match s.step load e with
      | .error err => ⟨[], .error (.failed (.command err))⟩
      | .ok (next, notices) =>
        let wait := if e = .signal then 0 else s.ramp.wait load
        (goOn load rest next).precededBy ⟨wait, notices⟩

end Drive

/-- The course of a load under a list of events. -/
def drive (load : Load) (engine : Engine) (watch : Watch) (events : List SessionEvent) : Drive :=
  match Ramp.start? load with
  | none => ⟨[], .error .crashed⟩
  | some ramp =>
    -- the commands that are due at once are written as the first stretch
    let s : Steering := { ramp := { phase := .ended }, engine, watch }
    match s.advance ramp with
    | .error e => ⟨[], .error (.failed (.command e))⟩
    | .ok (s, notices) => (Drive.goOn load events s).precededBy ⟨0, notices⟩

end LoadGenerator
