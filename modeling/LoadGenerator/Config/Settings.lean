/-
What the program can be told: where to send, what, with how many workers, and under which load.

* **`Settings`** — the configuration, with a default for every field and room for the keys that the
  program does not know;
* **`Load`** — the number of connections, their rate and the time to hold them;
* **`Settings.same`** — two configurations agree in every field and in the unknown keys, whatever
  the order of these.
-/
import LoadGenerator.Toml.Value

namespace LoadGenerator

/-- How the connections are to be opened and held. -/
structure Load where
  /-- Connections to open in total. -/
  connections : Nat := 1
  /-- Connect commands per second; zero opens everything at once. -/
  connectRate : Nat := 100
  /-- Seconds to hold the load when all connections have been asked for. -/
  duration : Nat := 10
  deriving DecidableEq, Repr

/-- The number of events that a worker takes from one poll, unless told otherwise. -/
def defaultMaxEvents : Nat := 1024

/-- What an engine is told: the number of workers, or one per processor; whether each is bound to a
processor; and the size of its event batches. -/
structure EngineOptions where
  workers : Option Nat := none
  pinWorkers : Bool := false
  maxEvents : Nat := defaultMaxEvents
  deriving DecidableEq, Repr

/-- The configuration of the program. -/
structure Settings where
  /-- The addresses to dial, as texts. -/
  targets : List String := ["127.0.0.1:8080"]
  /-- The text that every connection sends over and over. -/
  message : String := "abc"
  /-- The number of workers; one per processor when unset. -/
  workers : Option Nat := none
  pinWorkers : Bool := false
  maxEvents : Nat := defaultMaxEvents
  load : Load := {}
  /-- The keys that the program does not know, with their values. -/
  other : Toml.Entries := []

namespace Settings

/-- The part of the configuration that concerns the engine. -/
def engineOptions (c : Settings) : EngineOptions :=
  { workers := c.workers, pinWorkers := c.pinWorkers, maxEvents := c.maxEvents }

/-- Two configurations agree in every field, and in the unknown keys in any order. -/
def same (c d : Settings) : Bool :=
  c.targets = d.targets && c.message = d.message && c.workers = d.workers
    && c.pinWorkers = d.pinWorkers && c.maxEvents = d.maxEvents && c.load = d.load
    && c.other.length = d.other.length && Toml.Value.sameEntries c.other d.other

end Settings

end LoadGenerator
