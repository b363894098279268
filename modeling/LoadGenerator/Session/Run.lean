/-
A run of the program, from its configuration to the last word of its log.

* **`Surroundings`** — what the program finds where it is started;
* **`Settings.engage`** — an engine for a configuration;
* **`Session.run`** — the whole course: the configuration is loaded, the engine started, the load
  driven, and the engine shut down. The first failure ends it.
-/
import LoadGenerator.Session.Drive

namespace LoadGenerator

/-- What the program finds where it is started. -/
structure Surroundings where
  /-- The path of the configuration. -/
  path : String
  /-- What lies at that path. -/
  place : Place
  /-- The number of processors. -/
  processors : Nat

/-- The course of a session, what it leaves at the path of the configuration, and how it ends. -/
structure Session where
  stretches : List Stretch
  place : Place
  ending : Ending

/-- A started engine for a configuration, and what was told on the way. -/
def Settings.engage (c : Settings) (answers : StartAnswers) :
    List Act × Except SessionError Engine :=
  match resolveTargets c.targets with
  | .error e => ([], .error (.targets e))
  | .ok addresses =>
    match Payload.ofBytes? c.message.toUTF8.data with
    | none => ([], .error (.engine .emptyPayload))
    | some payload =>
      let start := Engine.start addresses.toArray payload c.engineOptions answers
      match start.failure with
      | some e => (start.acts, .error (.engine e))
      | none => (start.acts, .ok start.engine)

namespace Session

/-- The last part of a session: the engine is shut down. -/
def windUp (engine : Engine) : List Notice × Ending :=
  let (acts, result) := engine.shutDown
  match result with
  | none => (noticesOf acts, .unfinished)
  | some (.error e) => (noticesOf acts, .failed (.engine e))
  | some (.ok reports) =>
    (noticesOf acts ++
      [.transmittedInAll (total (reports.map WorkerReport.totalTransmitted)) reports.length], .done)

/-- The signals as the load finds them: the signal task was started, and the load listens. -/
def readyWatch : Watch := (({} : Watch).steps [.spawn, .listen]).1

/-- A session with a configuration. -/
def runWith (c : Settings) (processors : Nat) (events : List SessionEvent) :
    List Stretch × Ending :=
  match c.engage (Host.startAnswers processors) with
  | (acts, .error e) => ([⟨0, noticesOf acts⟩], .failed e)
  | (acts, .ok engine) =>
    let driven := drive c.load engine readyWatch events
    let before := ⟨0, noticesOf acts⟩ :: driven.stretches
    match driven.outcome with
    | .error ending => (before, ending)
    | .ok engine =>
      let (notices, ending) := windUp engine
      (before ++ [⟨0, notices⟩], ending)

/-- A session under the events that befall its load. -/
def run (s : Surroundings) (events : Load → List SessionEvent) : Session :=
  let startup := loadOrDefault s.path s.place
  let told : Stretch := ⟨0, startup.notices⟩
  match startup.settings with
  | none => ⟨[told], startup.place, .failed (.malformed s.path)⟩
  | some c =>
    let (stretches, ending) := runWith c s.processors (events c.load)
    ⟨told :: stretches, startup.place, ending⟩

end Session

end LoadGenerator
