/-
From a document to a configuration and back.

* **`Settings.ofEntries?`** — reads the fields out of a document. A field that is absent has its
  default, a field of the wrong kind or out of range spoils the whole, and all other keys are kept;
* **`Load.ofValue?`** — the load as a table, or as an array of its fields in order; a date-time
  passes for a table without any of the fields;
* **`Settings.toEntries?`** — the document of a configuration, unless a number is too great for one.
-/
import LoadGenerator.Config.Settings

namespace LoadGenerator

open Toml (Entries Value)

/-- The greatest whole number of a document. -/
def greatestInteger : Nat := twoTo 63 - 1

/-- The greatest number of connections, and the greatest rate. -/
def greatestCount : Nat := twoTo 32 - 1

namespace Toml.Value

/-- The text of a string. -/
def asString? : Value → Option String
  | string s => some s
  | _ => none

/-- The truth value of a boolean. -/
def asBool? : Value → Option Bool
  | boolean b => some b
  | _ => none

/-- The number of an integer between zero and a bound. -/
def asNat? (greatest : Nat) : Value → Option Nat
  | integer n => if 0 ≤ n ∧ n ≤ greatest then some n.toNat else none
  | _ => none

/-- The texts of an array of strings. -/
def asStrings? : Value → Option (List String)
  | array items => items.mapM asString?
  | _ => none

end Toml.Value

namespace Toml.Entries

/-- The value of a key. -/
def get? (entries : Entries) (key : String) : Option Value :=
  (entries.find? fun e => e.1 = key).map Prod.snd

/-- A field: its default where the key is absent, and nothing where the value is of a wrong kind. -/
def field {α : Type} (entries : Entries) (key : String) (read : Value → Option α) (default : α) :
    Option α :=
  match get? entries key with
  | some v => read v
  | none => some default

end Toml.Entries

namespace Load

/-- A load from its fields in order, as far as they go. -/
def ofItems? (items : List Value) : Option Load := do
  let connections ← match items[0]? with
    | some v => v.asNat? greatestCount
    | none => some ({} : Load).connections
  let connectRate ← match items[1]? with
    | some v => v.asNat? greatestCount
    | none => some ({} : Load).connectRate
  let duration ← match items[2]? with
    | some v => v.asNat? greatestInteger
    | none => some ({} : Load).duration
  return { connections, connectRate, duration }

/-- A load from a table that may have other keys as well. -/
def ofEntries? (entries : Entries) : Option Load := do
  let connections ←
    Entries.field entries "connections" (·.asNat? greatestCount) ({} : Load).connections
  let connectRate ←
    Entries.field entries "connect_rate" (·.asNat? greatestCount) ({} : Load).connectRate
  let duration ← Entries.field entries "duration" (·.asNat? greatestInteger) ({} : Load).duration
  return { connections, connectRate, duration }

/-- A load from a value: a table, an array of the fields, or a date-time, which has none of them. -/
def ofValue? : Value → Option Load
  | .table entries => ofEntries? entries
  | .array items => ofItems? items
  | .datetime _ => some {}
  | _ => none

/-- The table of a load. -/
def toValue (l : Load) : Value :=
  .table [("connections", .integer l.connections), ("connect_rate", .integer l.connectRate),
    ("duration", .integer l.duration)]

end Load

namespace Settings

/-- The keys that have a field. -/
def knownKeys : List String :=
  ["targets", "message", "workers", "pin_workers", "max_events", "load"]

/-- The entries whose keys have no field. -/
def unknownEntries (entries : Entries) : Entries :=
  entries.filter fun e => !knownKeys.contains e.1

/-- The configuration that a document describes. -/
def ofEntries? (entries : Entries) : Option Settings := do
  let default : Settings := {}
  let targets ← Entries.field entries "targets" (·.asStrings?) default.targets
  let message ← Entries.field entries "message" (·.asString?) default.message
  let workers ←
    Entries.field entries "workers" (fun v => (v.asNat? greatestInteger).map some) default.workers
  let pinWorkers ← Entries.field entries "pin_workers" (·.asBool?) default.pinWorkers
  let maxEvents ← Entries.field entries "max_events" (·.asNat? greatestInteger) default.maxEvents
  let load ← Entries.field entries "load" Load.ofValue? default.load
  let other ← Value.settleEntries? (unknownEntries entries)
  return { targets, message, workers, pinWorkers, maxEvents, load, other }

/-- Every number of the configuration fits into a document. -/
def isWritable (c : Settings) : Bool :=
  (match c.workers with | some n => decide (n ≤ greatestInteger) | none => true)
    && c.maxEvents ≤ greatestInteger && c.load.duration ≤ greatestInteger

/-- The entries of a configuration: its fields in order, an unset number of workers left out, and
the unknown keys at the end. -/
def entries (c : Settings) : Entries :=
  [("targets", .array (c.targets.map .string)), ("message", .string c.message)]
    ++ (c.workers.map fun n => ("workers", Value.integer n)).toList
    ++ [("pin_workers", .boolean c.pinWorkers), ("max_events", .integer c.maxEvents),
      ("load", c.load.toValue)]
    ++ c.other

/-- The document of a configuration, unless one of its numbers is too great. -/
def toEntries? (c : Settings) : Option Entries :=
  if c.isWritable then some c.entries else none

end Settings

end LoadGenerator
