/-
Engines on the host whose network leads nowhere.

* **`Engine.round`** — every member in turn takes a turn, and leaves if that finishes it;
* **`Engine.drain`** — rounds until all members would wait;
* **`Engine.shutDown`** — a shutdown to its end.
-/
import LoadGenerator.Host.Basic

namespace LoadGenerator.Engine

/-- Member `i` takes a turn and leaves if that finishes it. -/
def turnAndLeave (e : Engine) (i : Nat) : Engine × List Act :=
  match e.crew[i]? with
  | none => (e, [])
  | some m =>
    let (e, acts, _) := e.turn i (Host.turnAnswers m)
    let (e, more) := e.leave i
    (e, acts ++ more)

/-- A turn of every member from `i` on. -/
def round : (count : Nat) → (i : Nat) → Engine → Engine × List Act
  | 0, _, e => (e, [])
  | count + 1, i, e =>
    let (e, acts) := e.turnAndLeave i
    let (e, more) := round count (i + 1) e
    (e, acts ++ more)

/-- Several rounds. -/
def rounds : (count : Nat) → Engine → Engine × List Act
  | 0, e => (e, [])
  | count + 1, e =>
    let (e, acts) := round e.crew.length 0 e
    let (e, more) := rounds count e
    (e, acts ++ more)

/-- Rounds until nothing happens any more: each one reads a byte while there is one and a worker to
read it, and two more settle the rest. -/
def drain (e : Engine) : Engine × List Act := rounds (e.pipe.pending.length + 2) e

/-- A shutdown: what is done in its course, and what it hands back unless a worker never ends. -/
def shutDown (e : Engine) : List Act × Option (Except EngineError (List WorkerReport)) :=
  match e.requestStop with
  | .error err => ([], some (.error err))
  | .ok e =>
    let (e, acts) := e.drain
    match e.collect with
    | some (.ok reports) => (acts ++ [.told (summary reports)], some (.ok reports))
    | other => (acts, other)

end LoadGenerator.Engine
