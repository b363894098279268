/-
Starting and stopping an engine.

* **`Engine.hire`** — one more worker, if it can be made and its thread spawned;
* **`Engine.start`** — a control pipe and a worker for each index. When a worker cannot be had,
  those already there are told to stop before the failure is handed back;
* **`Engine.requestStop`**, **`Engine.collect`**, **`Engine.summary`** — a shutdown: as many
  terminate bytes as there are workers, the reports of all of them, and a last word to the log;
* **`Engine.abandon`** — an engine that is dropped tells its workers to stop and waits for none.
  After a shutdown it has nothing left to tell them.
-/
import LoadGenerator.Config.Settings
import LoadGenerator.Engine.Crew

namespace LoadGenerator

/-- What the system answers while a worker is hired: to its creation, to the spawning of its thread,
and to binding it to a processor. -/
structure HireAnswers where
  creation : CreationAnswers := {}
  spawn : Option SystemError := none
  pin : Option SystemError := none
  deriving Repr

/-- What the system answers while an engine is started. -/
structure StartAnswers where
  /-- The number of processors. -/
  processors : Nat := 1
  pipe : Option SystemError := none
  hire : Nat → HireAnswers := fun _ => {}

/-- A started engine, or one that could not be completed and why; and what was told. -/
structure Start where
  engine : Engine
  failure : Option EngineError
  acts : List Act

/-- The bytes of one event in a worker's event batch. -/
def eventBytes : Nat := 12

/-- An event batch of this size can be asked for; a worker with a greater one panics as it
starts. -/
def canHoldEvents (maxEvents : Nat) : Bool := maxEvents * eventBytes < twoTo 63

namespace EngineOptions

/-- The number of workers: the one asked for, unless it is zero, or one for each processor. -/
def workerCount (o : EngineOptions) (processors : Nat) : Nat :=
  match o.workers with
  | some n => if 0 < n then n else processors
  | none => processors

/-- Worker `i` is bound to processor `i` when that was asked for and there are enough of them. -/
def core? (o : EngineOptions) (processors i : Nat) : Option Nat :=
  if o.pinWorkers && o.workerCount processors ≤ processors then some i else none

end EngineOptions

namespace Engine

/-- What a worker's thread tells about its processor. -/
def pinActs (core : Option Nat) (answer : Option SystemError) : List Act :=
  match core, answer with
  | none, _ => []
  | some core, none => [.told (.pinned core)]
  | some core, some e => [.told (.pinFailed core e)]

/-- One more worker. -/
def hire (e : Engine) (setup : WorkerSetup) (core : Option Nat) (answers : HireAnswers) :
    Except EngineError (Engine × List Act) :=
  match Worker.create setup answers.creation with
  | .error err => .error err
  | .ok worker =>
    match answers.spawn with
    | some err => .error (.spawn setup.index err)
    | none =>
      let acts := pinActs core answers.pin
      let unstopped := e.unstopped + 1
      if canHoldEvents worker.maxEvents then
        .ok ({ e with pipe := e.pipe.addReader, crew := e.crew ++ [{ worker }], unstopped }, acts)
      -- the thread is spawned and its worker counts, but its handle is gone with it
      else .ok ({ e with crew := e.crew ++ [{ worker, status := .panicked }], unstopped }, acts)

/-- Workers for the indices from `first` on, as long as they can be had. -/
def hireEach (setup : Nat → WorkerSetup) (core : Nat → Option Nat) (answers : Nat → HireAnswers) :
    (count : Nat) → (first : Nat) → Engine → Start
  | 0, _, e => ⟨e, none, []⟩
  | count + 1, i, e =>
    match e.hire (setup i) (core i) (answers i) with
    | .error err => ⟨e, some err, []⟩
    | .ok (e, acts) =>
      let start := hireEach setup core answers count (i + 1) e
      { start with acts := acts ++ start.acts }

/-- Terminate bytes for `count` workers, where somebody is left to read them. -/
def queueTerminates (e : Engine) (count : Nat) : Engine :=
  match e.write (List.replicate count Command.terminateByte) with
  | .ok e => e
  | .error _ => e

/-- The supervisor gives up its own handle of the read end. -/
def releaseReader (e : Engine) : Engine := { e with pipe := e.pipe.closeReader }

/-- The supervisor of an engine is gone: workers that were not told to stop are told so now, and
nobody waits for them. -/
def abandon (e : Engine) : Engine :=
  { (e.queueTerminates e.unstopped).closeWriter with unstopped := 0 }

/-- An engine with a worker for each index below the worker count. -/
def start (addresses : Array SocketAddress) (payload : Payload) (options : EngineOptions)
    (answers : StartAnswers) : Start :=
  if addresses.isEmpty then ⟨{}, some .emptyRoster, []⟩
  else
    let count := options.workerCount answers.processors
    let told : Act := .told (.usingCpus count)
    match answers.pipe with
    | some err => ⟨{}, some (.controlChannel err), [told]⟩
    | none =>
      let setup := fun index => { index, addresses, payload, maxEvents := options.maxEvents }
      let hired := hireEach setup (options.core? answers.processors) answers.hire count 0 {}
      -- what was hired before the failure is told to stop while the supervisor can still write
      let engine := match hired.failure with
        | some _ => hired.engine.abandon.releaseReader
        | none => hired.engine.releaseReader
      { engine, failure := hired.failure, acts := told :: hired.acts }

/-- A shutdown begins: one terminate byte for every worker. -/
def requestStop (e : Engine) : Except EngineError Engine :=
  match e.write (List.replicate e.unstopped Command.terminateByte) with
  | .ok e => .ok { e with unstopped := 0 }
  | .error err => .error (.controlChannel err)

/-- The reports of all workers in order, or the first worker that panicked; nothing while a worker
before that one is running. -/
def collectFrom : (first : Nat) → List Member → Option (Except EngineError (List WorkerReport))
  | _, [] => some (.ok [])
  | i, m :: rest =>
    match m.status with
    | .running => none
    | .panicked => some (.error (.workerPanicked i))
    | .exited report =>
      match collectFrom (i + 1) rest with
      | some (.ok reports) => some (.ok (report :: reports))
      -- a failure or a wait behind this worker is that of the whole crew
      | other => other

/-- What a shutdown hands back when all workers have ended. -/
def collect (e : Engine) : Option (Except EngineError (List WorkerReport)) := collectFrom 0 e.crew

/-- The last word of a shutdown. -/
def summary (reports : List WorkerReport) : Notice :=
  .engineSummary reports.length (total (reports.map WorkerReport.attempts))
    (total (reports.map WorkerReport.failures)) (total (reports.map WorkerReport.totalTransmitted))

end Engine

end LoadGenerator
