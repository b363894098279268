/-
How a run of the program ends.

* **`SessionError`** — why it fails, and **`SessionError.message`**;
* **`Ending`** — all the ways to end, with **`Ending.exitCode`** and **`Ending.errorLine?`**;
* **`Stretch`** — a piece of its course: a wait, and what is told after it.
-/
import LoadGenerator.Config.Store
import LoadGenerator.Config.Targets
import LoadGenerator.Engine.Error

namespace LoadGenerator

/-- Why a session fails. -/
inductive SessionError where
  /-- The file at a path holds a text that is no configuration. -/
  | malformed (path : String)
  | targets (error : TargetError)
  | engine (error : EngineError)
  /-- A connect command could not be written. -/
  | command (error : SystemError)
  deriving DecidableEq, Repr

/-- The text shown for a failure. -/
def SessionError.message : SessionError → String
  | malformed path => malformedMessage path
  | targets e => e.message
  | engine e => e.inFull
  | command e => e.message

/-- How a session ends. -/
inductive Ending where
  /-- The load was held and the workers have handed in their reports. -/
  | done
  | failed (error : SessionError)
  /-- The rate of the load has no period. -/
  | crashed
  /-- A second signal came, and nothing was waited for. -/
  | gone
  /-- What the session waits for never comes. -/
  | unfinished
  deriving DecidableEq, Repr

namespace Ending

/-- The exit code of the program. A session that is not finished has none yet. -/
def exitCode? : Ending → Option Nat
  | done => some 0
  | failed _ | gone => some 1
  | crashed => some 101
  | unfinished => none

/-- The line that the program writes for a failure. -/
def errorLine? : Ending → Option String
  | failed e => some ("Error: " ++ e.message)
  | _ => none

end Ending

/-- A wait in nanoseconds, and what is told after it. -/
structure Stretch where
  wait : Nat
  notices : List Notice

/-- All that is told, in order. -/
def noticesOfStretches (stretches : List Stretch) : List Notice := stretches.flatMap Stretch.notices

end LoadGenerator
