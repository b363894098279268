/-
What a configuration document says.

Every field of a configuration has a key of its own. Where the document has the key, its value must
be of the right kind and in range, and is what the field holds; where it has not, the field has its
default. All other keys are kept with their values. So a document is understood if and only if the
values of the keys with a field fit, and it then tells the whole configuration.

* **`Determines`** — what the value of a key, or its absence, tells of a field;
* **`Load.Parts`**, **`Load.Shows`** — the numbers of a load, and the values that can stand for one:
  a table, an array of the numbers in order, and a date-time, which shows none of them;
* **`Settings.DescribedBy`**, **`Settings.ofEntries?_eq_some_iff`** — what is read is what is told;
* **`Toml.Value.AllTables`** — a condition on all tables in a value; without the key under which a
  date-time travels a value is kept, and without repeated keys it is kept the same;
* **`Settings.FitsSchema`**, **`Settings.accepts_exactly_its_schema`** — which documents are
  understood, and what becomes of all of their keys.
-/
import LoadGenerator.Proofs.Keeping

namespace LoadGenerator

open Toml (Entries Value)

/-! ### Values of one kind -/

namespace Toml.Value

variable {v : Value}

/-- The value is a whole number from zero to a bound. -/
def IsNatural (greatest : Nat) (v : Value) (n : Nat) : Prop := n ≤ greatest ∧ v = .integer n

theorem asString?_eq_some_iff {s : String} : v.asString? = some s ↔ v = .string s := by
  cases v <;> simp [asString?]

theorem asBool?_eq_some_iff {b : Bool} : v.asBool? = some b ↔ v = .boolean b := by
  cases v <;> simp [asBool?]

theorem asNat?_eq_some_iff {greatest n : Nat} :
    v.asNat? greatest = some n ↔ v.IsNatural greatest n := by
  cases v with
  | integer k =>
    rw [asNat?, IsNatural, Value.integer.injEq]
    split
    · rw [Option.some.injEq]
      omega
    · refine ⟨nofun, fun ⟨hle, hk⟩ => ?_⟩
      omega
  | _ => simp [asNat?, IsNatural]

theorem asStrings?_eq_some_iff {texts : List String} :
    v.asStrings? = some texts ↔ v = .array (texts.map .string) := by
  cases v with
  | array items =>
    rw [asStrings?, Value.array.injEq]
    -- the texts and the items are taken apart together
    induction items generalizing texts with
    | nil => cases texts <;> simp
    | cons v items ih =>
      simp only [List.mapM_cons, Option.bind_eq_bind, Option.bind_eq_some_iff,
        asString?_eq_some_iff, ih]
      cases texts <;> simp
  | _ => simp [asStrings?]

end Toml.Value

/-! ### Fields -/

section Field

variable {α : Type} {means : Value → α → Prop} {read : Value → Option α} {default a : α}
  {v? : Option Value}

/-- What is told of a field: a value that means `a`, or none, and then `a` is the default. -/
def Determines (means : Value → α → Prop) (default : α) : Option Value → α → Prop
  | some v, a => means v a
  | none, a => a = default

/-- A value is read, and where there is none the default is taken. -/
def readOr (read : Value → Option α) (default : α) : Option Value → Option α
  | some v => read v
  | none => some default

theorem readOr_eq_some_iff (hread : ∀ v a, read v = some a ↔ means v a) :
    readOr read default v? = some a ↔ Determines means default v? a := by
  cases v? with
  | none => simp [readOr, Determines, eq_comm]
  | some v => exact hread v a

theorem field_eq_some_iff (hread : ∀ v a, read v = some a ↔ means v a) (es : Entries)
    (key : String) :
    Entries.field es key read default = some a ↔
      Determines means default (Entries.get? es key) a :=
  readOr_eq_some_iff hread

/-- A field holds its default, or what some value means. -/
theorem Determines.cases (h : Determines means default v? a) : a = default ∨ ∃ v, means v a := by
  cases v? with
  | none => exact .inl h
  | some v => exact .inr ⟨v, h⟩

/-- A number that is told within a range, or is the default, is in the range. -/
theorem Determines.le {greatest default n : Nat}
    (h : Determines (Value.IsNatural greatest) default v? n) (hdefault : default ≤ greatest) :
    n ≤ greatest := by
  rcases h.cases with rfl | ⟨v, hle, -⟩
  · exact hdefault
  · exact hle

theorem exists_determines_iff :
    (∃ a, Determines means default v? a) ↔ ∀ v ∈ v?, ∃ a, means v a := by
  cases v? <;> simp [Determines]

end Field

/-! ### Loads -/

namespace Load

variable {v : Value} {l : Load}

/-- The numbers of a load, each with the value that stands for it, if there is one. -/
structure Parts where
  connections : Option Value := none
  connectRate : Option Value := none
  duration : Option Value := none

namespace Parts

/-- The parts under their keys. Other keys do not matter. -/
def ofTable (es : Entries) : Parts where
  connections := Entries.get? es "connections"
  connectRate := Entries.get? es "connect_rate"
  duration := Entries.get? es "duration"

/-- The parts in their order. Items behind the third do not matter. -/
def ofArray (items : List Value) : Parts where
  connections := items[0]?
  connectRate := items[1]?
  duration := items[2]?

/-- The parts are numbers that their fields can hold. -/
structure InRange (p : Parts) : Prop where
  connections : ∀ v ∈ p.connections, ∃ n, v.IsNatural greatestCount n
  connectRate : ∀ v ∈ p.connectRate, ∃ n, v.IsNatural greatestCount n
  duration : ∀ v ∈ p.duration, ∃ n, v.IsNatural greatestInteger n

/-- The load has the numbers of the parts, and its default for each part that is missing. -/
structure Describes (p : Parts) (l : Load) : Prop where
  connections :
    Determines (Value.IsNatural greatestCount) ({} : Load).connections p.connections l.connections
  connectRate :
    Determines (Value.IsNatural greatestCount) ({} : Load).connectRate p.connectRate l.connectRate
  duration :
    Determines (Value.IsNatural greatestInteger) ({} : Load).duration p.duration l.duration

/-- The load of the parts, if they are in range. -/
def read (p : Parts) : Option Load :=
  (readOr (·.asNat? greatestCount) ({} : Load).connections p.connections).bind fun connections =>
    (readOr (·.asNat? greatestCount) ({} : Load).connectRate p.connectRate).bind fun connectRate =>
      (readOr (·.asNat? greatestInteger) ({} : Load).duration p.duration).bind fun duration =>
        some { connections, connectRate, duration }

variable {p : Parts}

theorem read_eq_some_iff : p.read = some l ↔ p.Describes l := by
  have hread (greatest : Nat) (v : Value) (n : Nat) :
      v.asNat? greatest = some n ↔ v.IsNatural greatest n := Value.asNat?_eq_some_iff
  simp only [read, Option.bind_eq_some_iff, readOr_eq_some_iff (hread _)]
  constructor
  · rintro ⟨connections, hconnections, connectRate, hrate, duration, hduration, hl⟩
    obtain rfl := Option.some.inj hl
    exact ⟨hconnections, hrate, hduration⟩
  · intro h
    exact ⟨_, h.connections, _, h.connectRate, _, h.duration, rfl⟩

theorem exists_describes_iff : (∃ l, p.Describes l) ↔ p.InRange := by
  constructor
  · rintro ⟨l, h⟩
    exact ⟨exists_determines_iff.mp ⟨_, h.connections⟩,
      exists_determines_iff.mp ⟨_, h.connectRate⟩, exists_determines_iff.mp ⟨_, h.duration⟩⟩
  · intro h
    obtain ⟨connections, hconnections⟩ := exists_determines_iff.mpr h.connections
    obtain ⟨connectRate, hrate⟩ := exists_determines_iff.mpr h.connectRate
    obtain ⟨duration, hduration⟩ := exists_determines_iff.mpr h.duration
    exact ⟨{ connections, connectRate, duration }, hconnections, hrate, hduration⟩

end Parts

/-- A value that is made to hold the parts of a load: a table, or an array. -/
inductive Holds : Value → Parts → Prop
  | table (es : Entries) : Holds (.table es) (.ofTable es)
  | array (items : List Value) : Holds (.array items) (.ofArray items)

/-- A value that can stand for a load, with the parts that it shows. A date-time comes as a table
too, and none of the parts is in it. -/
inductive Shows : Value → Parts → Prop
  | held {v : Value} {p : Parts} (h : Holds v p) : Shows v p
  | datetime (d : Toml.DateTime) : Shows (.datetime d) {}

theorem ofEntries?_eq (es : Entries) : ofEntries? es = (Parts.ofTable es).read := rfl

theorem ofItems?_eq (items : List Value) : ofItems? items = (Parts.ofArray items).read := by
  unfold ofItems? Parts.read Parts.ofArray readOr
  cases items[0]? <;> cases items[1]? <;> cases items[2]? <;> rfl

/-- **A load is read of the values that can stand for one, as their parts tell.** -/
theorem ofValue?_eq_some_iff : ofValue? v = some l ↔ ∃ p, Shows v p ∧ p.Describes l := by
  -- there is one way to see the value, and the reader reads the parts seen in that way
  have hshown {p : Parts} (hshows : ∀ q, Shows v q ↔ q = p) (hread : ofValue? v = p.read) :
      ofValue? v = some l ↔ ∃ p, Shows v p ∧ p.Describes l := by
    rw [hread, Parts.read_eq_some_iff]
    simp only [hshows, exists_eq_left]
  cases v with
  | table es =>
    refine hshown (fun q => ⟨?_, ?_⟩) (ofEntries?_eq es)
    · rintro ⟨⟨⟩⟩
      rfl
    · rintro rfl
      exact .held (.table es)
  | array items =>
    refine hshown (fun q => ⟨?_, ?_⟩) (ofItems?_eq items)
    · rintro ⟨⟨⟩⟩
      rfl
    · rintro rfl
      exact .held (.array items)
  | datetime d =>
    -- a date-time passes for a table without any of the parts
    refine hshown (p := {}) (fun q => ⟨?_, ?_⟩) rfl
    · rintro (⟨⟨⟩⟩ | ⟨⟩)
      rfl
    · rintro rfl
      exact .datetime d
  | _ =>
    refine ⟨nofun, ?_⟩
    rintro ⟨p, ⟨⟨⟩⟩, -⟩

end Load

/-! ### Tables inside a value -/

namespace Toml

/-- No key of the table is the one under which a date-time travels. -/
def FreeOfDateTimeKey (es : Entries) : Prop := ∀ e ∈ es, e.1 ≠ dateTimeKey

instance : DecidablePred FreeOfDateTimeKey := fun es =>
  inferInstanceAs (Decidable (∀ e ∈ es, e.1 ≠ dateTimeKey))

/-- No key of the table is repeated. -/
def DistinctKeys (es : Entries) : Prop := (es.map Prod.fst).Nodup

instance : DecidablePred DistinctKeys := fun es =>
  inferInstanceAs (Decidable (es.map Prod.fst).Nodup)

namespace Value

/-- Every table in a value, itself included, satisfies a condition. -/
inductive AllTables (p : Entries → Prop) : Value → Prop
  | table {es : Entries} (htable : p es) (hvalues : ∀ e ∈ es, AllTables p e.2) :
      AllTables p (.table es)
  | array {items : List Value} (hitems : ∀ v ∈ items, AllTables p v) : AllTables p (.array items)
  | string (s : String) : AllTables p (.string s)
  | integer (n : Int) : AllTables p (.integer n)
  | float (x : Binary64) : AllTables p (.float x)
  | boolean (b : Bool) : AllTables p (.boolean b)
  | datetime (d : DateTime) : AllTables p (.datetime d)

variable {v : Value} {es : Entries} {items : List Value}

theorem AllTables.of_mem {p : Entries → Prop} (h : AllTables p (.table es)) :
    ∀ e ∈ es, e.2.AllTables p := by
  cases h with
  | table _ hvalues => exact hvalues

/-- What does not look like a date-time is kept, with the keys of its tables in order. -/
theorem settle?_of_free (h : v.AllTables FreeOfDateTimeKey) : v.settle? = some v.arrange := by
  induction h with
  | @table es hfree _ ih =>
    cases es with
    | nil => simp [settle?, arrange, arrangeEntries, sortEntries]
    | cons e es =>
      -- only the first key could make a date-time of the table
      unfold settle?
      rw [if_neg (hfree e (by simp)), settleEntries?_of_forall ih]
      rfl
  | array _ ih =>
    rw [settle?, settleItems?_of_forall ih]
    rfl
  | _ => rfl

theorem sameItems_arrangeItems (h : ∀ v ∈ items, v.same v.arrange = true) :
    sameItems items (arrangeItems items) = true := by
  induction items with
  | nil => rfl
  | cons v items ih =>
    rw [List.forall_mem_cons] at h
    rw [arrangeItems, sameItems, h.1, ih h.2]
    rfl

/-- `sameEntries` looks up every key of the first table. -/
theorem sameEntries_eq_all (xs ys : Entries) : sameEntries xs ys =
    xs.all fun e => (Entries.get? ys e.1).any fun y => same e.2 y := by
  induction xs with
  | nil => rfl
  | cons e xs ih =>
    rw [sameEntries, ih, List.all_cons, Entries.get?]
    cases ys.find? fun d => d.1 = e.1 <;> rfl

/-- A value without repeated keys stays the same when the keys of its tables are put in order. -/
theorem same_arrange (h : v.AllTables DistinctKeys) : v.same v.arrange = true := by
  induction h with
  | @table es hdistinct _ ih =>
    have hperm := sortEntries_perm (arrangeEntries es)
    rw [arrange, same, hperm.length_eq, arrangeEntries_eq_map, List.length_map, sameEntries_eq_all,
      decide_eq_true rfl, Bool.true_and, List.all_eq_true]
    intro e he
    -- a key that is not repeated is found in any order
    have hmem : (e.1, e.2.arrange) ∈ arrangeEntries es :=
      arrangeEntries_eq_map es ▸ List.mem_map_of_mem he
    have hfilter := filter_key_of_mem (keys_arrangeEntries es ▸ hdistinct) hmem
    rw [← arrangeEntries_eq_map, Entries.get?_of_perm hperm hfilter]
    exact ih e he
  | array _ ih =>
    rw [arrange, same]
    exact sameItems_arrangeItems ih
  | float x => simp [arrange, same, Binary64.sameNumber]
  | _ => simp [arrange, same]

end Value

end Toml

/-! ### Configurations -/

namespace Settings

variable {es : Entries} {c : Settings}

/-- The fields of the configuration are what the document tells of them. -/
structure DescribedBy (c : Settings) (es : Entries) : Prop where
  targets : Determines (fun v texts => v = .array (texts.map .string)) ({} : Settings).targets
    (Entries.get? es "targets") c.targets
  message : Determines (fun v text => v = .string text) ({} : Settings).message
    (Entries.get? es "message") c.message
  workers : Determines (fun v count => ∃ n, count = some n ∧ v.IsNatural greatestInteger n)
    ({} : Settings).workers (Entries.get? es "workers") c.workers
  pinWorkers : Determines (fun v b => v = .boolean b) ({} : Settings).pinWorkers
    (Entries.get? es "pin_workers") c.pinWorkers
  maxEvents : Determines (Value.IsNatural greatestInteger) ({} : Settings).maxEvents
    (Entries.get? es "max_events") c.maxEvents
  load : Determines (fun v l => ∃ p, Load.Shows v p ∧ p.Describes l) ({} : Settings).load
    (Entries.get? es "load") c.load

/-- **What is read is what the document tells**, with the unknown keys as they are kept. -/
theorem ofEntries?_eq_some_iff : ofEntries? es = some c ↔
    c.DescribedBy es ∧ Value.settleEntries? (unknownEntries es) = some c.other := by
  -- a number of workers that is there is never read as unset
  have hworkers (v : Value) (count : Option Nat) :
      (v.asNat? greatestInteger).map some = some count ↔
        ∃ n, count = some n ∧ v.IsNatural greatestInteger n := by
    simp only [Option.map_eq_some_iff, Value.asNat?_eq_some_iff]
    exact ⟨fun ⟨n, hn, hcount⟩ => ⟨n, hcount.symm, hn⟩, fun ⟨n, hcount, hn⟩ => ⟨n, hn, hcount.symm⟩⟩
  -- every field is read by itself, so the equation splits into one for each
  simp only [ofEntries?, Option.bind_eq_bind, Option.bind_eq_some_iff,
    field_eq_some_iff fun _ _ => Value.asStrings?_eq_some_iff,
    field_eq_some_iff fun _ _ => Value.asString?_eq_some_iff, field_eq_some_iff hworkers,
    field_eq_some_iff fun _ _ => Value.asBool?_eq_some_iff,
    field_eq_some_iff fun _ _ => Value.asNat?_eq_some_iff,
    field_eq_some_iff fun _ _ => Load.ofValue?_eq_some_iff]
  constructor
  · rintro ⟨targets, htargets, message, hmessage, workers, hworkers, pinWorkers, hpin, maxEvents,
      hevents, load, hload, other, hother, hc⟩
    obtain rfl := Option.some.inj hc
    exact ⟨⟨htargets, hmessage, hworkers, hpin, hevents, hload⟩, hother⟩
  · rintro ⟨h, hother⟩
    exact ⟨_, h.targets, _, h.message, _, h.workers, _, h.pinWorkers, _, h.maxEvents, _, h.load, _,
      hother, rfl⟩

/-- Each key with a field that the document has, has a value that fits the field; `shows` says which
values can stand for a load. -/
structure FitsSchema (shows : Value → Load.Parts → Prop) (es : Entries) : Prop where
  targets : ∀ v ∈ Entries.get? es "targets", ∃ texts : List String, v = .array (texts.map .string)
  message : ∀ v ∈ Entries.get? es "message", ∃ text, v = .string text
  workers : ∀ v ∈ Entries.get? es "workers", ∃ n, v.IsNatural greatestInteger n
  pinWorkers : ∀ v ∈ Entries.get? es "pin_workers", ∃ b, v = .boolean b
  maxEvents : ∀ v ∈ Entries.get? es "max_events", ∃ n, v.IsNatural greatestInteger n
  load : ∀ v ∈ Entries.get? es "load", ∃ p, shows v p ∧ p.InRange

/-- A document describes some configuration if and only if it fits the schema. -/
theorem exists_describedBy_iff (other : Entries) :
    (∃ c : Settings, c.DescribedBy es ∧ c.other = other) ↔ FitsSchema Load.Shows es := by
  constructor
  -- from the fields to their values: what is determined by a value is of its kind
  · rintro ⟨c, h, -⟩
    refine ⟨exists_determines_iff.mp ⟨_, h.targets⟩, exists_determines_iff.mp ⟨_, h.message⟩,
      fun v hv => ?_, exists_determines_iff.mp ⟨_, h.pinWorkers⟩,
      exists_determines_iff.mp ⟨_, h.maxEvents⟩, fun v hv => ?_⟩
    · obtain ⟨count, n, -, hn⟩ := exists_determines_iff.mp ⟨_, h.workers⟩ v hv
      exact ⟨n, hn⟩
    · obtain ⟨l, p, hshows, hl⟩ := exists_determines_iff.mp ⟨_, h.load⟩ v hv
      exact ⟨p, hshows, Load.Parts.exists_describes_iff.mp ⟨l, hl⟩⟩
  -- and back: each value of its kind determines what its field holds
  · intro h
    obtain ⟨targets, htargets⟩ := exists_determines_iff.mpr h.targets
    obtain ⟨message, hmessage⟩ := exists_determines_iff.mpr h.message
    have hcount : ∀ v ∈ Entries.get? es "workers",
        ∃ count : Option Nat, ∃ n, count = some n ∧ v.IsNatural greatestInteger n := by
      intro v hv
      obtain ⟨n, hn⟩ := h.workers v hv
      exact ⟨some n, n, rfl, hn⟩
    have hloads : ∀ v ∈ Entries.get? es "load", ∃ l p, Load.Shows v p ∧ p.Describes l := by
      intro v hv
      obtain ⟨p, hshows, hrange⟩ := h.load v hv
      obtain ⟨l, hl⟩ := Load.Parts.exists_describes_iff.mpr hrange
      exact ⟨l, p, hshows, hl⟩
    obtain ⟨workers, hworkers⟩ := exists_determines_iff.mpr hcount
    obtain ⟨pinWorkers, hpin⟩ := exists_determines_iff.mpr h.pinWorkers
    obtain ⟨maxEvents, hevents⟩ := exists_determines_iff.mpr h.maxEvents
    obtain ⟨load, hload⟩ := exists_determines_iff.mpr hloads
    exact ⟨{ targets, message, workers, pinWorkers, maxEvents, load, other },
      ⟨htargets, hmessage, hworkers, hpin, hevents, hload⟩, rfl⟩

theorem settleEntries?_unknownEntries (hfree : (Value.table es).AllTables Toml.FreeOfDateTimeKey) :
    Value.settleEntries? (unknownEntries es) =
      some ((unknownEntries es).map fun e => (e.1, e.2.arrange)) := by
  rw [← Toml.arrangeEntries_eq_map]
  refine Toml.settleEntries?_of_forall fun e he => Value.settle?_of_free ?_
  exact hfree.of_mem e (List.mem_filter.mp he).1

/-- **A configuration is read of exactly the documents that fit its schema, and no key is lost.**
Take any document in which no table, at any depth, has the key under which a date-time travels. It
is understood if and only if each of these keys, where it is there, has a value of its kind: texts
for the targets, a text for the message, a truth value for the binding of workers, whole numbers in
range for the workers and the size of event batches, and for the load a table or an array of numbers
in range, or a date-time.

Then every field holds the value of its key, or its default where there is none. What a table for
the load has besides, and what comes behind the third item of an array, does not matter. Every key
without a field is kept with its value, the keys of whose tables are put in order, and the log is
warned of each once; the order of keys apart the values stay the same, as no key is repeated. A text
is read as the document that it is the text of. -/
theorem accepts_exactly_its_schema (hfree : (Value.table es).AllTables Toml.FreeOfDateTimeKey) :
    ((∃ c, ofEntries? es = some c) ↔ FitsSchema Load.Shows es) ∧
    (∀ c, ofEntries? es = some c →
      c.DescribedBy es ∧
      c.other = (unknownEntries es).map (fun e => (e.1, e.2.arrange)) ∧
      ((Value.table es).AllTables Toml.DistinctKeys →
        ∀ e ∈ unknownEntries es, e.2.same e.2.arrange = true) ∧
      c.notices = (unknownEntries es).map (fun e => .unknownConfiguration e.1 e.2.arrange) ∧
      ∀ n ∈ c.notices, n.level = .warn) ∧
    ∀ text, Toml.parse? text = some es → parse? text = ofEntries? es := by
  -- the unknown keys have no date-time among them, so they are kept as they are
  have hread (c : Settings) : ofEntries? es = some c ↔ c.DescribedBy es ∧
      c.other = (unknownEntries es).map fun e => (e.1, e.2.arrange) := by
    rw [ofEntries?_eq_some_iff, settleEntries?_unknownEntries hfree, Option.some.injEq, eq_comm]
  refine ⟨?_, fun c hc => ?_, fun text htext => ?_⟩
  · simp only [hread]
    exact exists_describedBy_iff _
  · obtain ⟨hdescribed, hother⟩ := (hread c).mp hc
    have hnotices : c.notices =
        (unknownEntries es).map fun e => .unknownConfiguration e.1 e.2.arrange := by
      rw [notices, hother, List.map_map]
      rfl
    refine ⟨hdescribed, hother, fun hdistinct e he => ?_, hnotices, fun n hn => ?_⟩
    · exact Value.same_arrange (hdistinct.of_mem e (List.mem_filter.mp he).1)
    · obtain ⟨e, -, rfl⟩ := List.mem_map.mp (hnotices ▸ hn)
      rfl
  · rw [parse?, htext]
    rfl

/-- A document with a message, an array for the load, and a table that the program does not know. -/
def withColour : Entries :=
  [("message", .string "hi"), ("colour", .table [("shade", .integer 3), ("name", .string "blue")]),
    ("load", .array [.integer 5, .integer 6])]

/-- It is understood: the missing fields have their defaults, the table is kept with its keys in
order, and the log is warned once. -/
theorem accepts_exactly_its_schema_withColour :
    (Value.table withColour).AllTables Toml.FreeOfDateTimeKey ∧
    (Value.table withColour).AllTables Toml.DistinctKeys ∧ ∃ c, ofEntries? withColour = some c ∧
      c.message = "hi" ∧ c.workers = none ∧ c.load = { connections := 5, connectRate := 6 } ∧
      c.other = [("colour", .table [("name", .string "blue"), ("shade", .integer 3)])] ∧
      (∀ e ∈ unknownEntries withColour, e.2.same e.2.arrange = true) ∧ c.notices.length = 1 := by
  -- both conditions are of the two tables of the document, and can be decided for these
  have htables (p : Entries → Prop) (hdocument : p withColour)
      (hcolour : p [("shade", .integer 3), ("name", .string "blue")]) :
      (Value.table withColour).AllTables p := by
    refine .table hdocument ?_
    simp only [withColour, List.forall_mem_cons]
    exact ⟨.string _, .table hcolour (by simp [Value.AllTables.integer, Value.AllTables.string]),
      .array (by simp [Value.AllTables.integer]), by simp⟩
  have hfree := htables Toml.FreeOfDateTimeKey (by decide) (by decide)
  have hdistinct := htables Toml.DistinctKeys (by decide) (by decide)
  obtain ⟨haccepts, htells, -⟩ := accepts_exactly_its_schema hfree
  have hload : ∀ v ∈ Entries.get? withColour "load", ∃ p, Load.Shows v p ∧ p.InRange := by
    intro v hv
    obtain rfl := Option.some.inj hv
    have hnatural (n : Nat) (hn : n ≤ greatestCount) : ∀ v ∈ some (Value.integer n),
        ∃ m, v.IsNatural greatestCount m := fun v hv => ⟨n, hn, (Option.some.inj hv).symm⟩
    exact ⟨_, .held (.array _), hnatural 5 (by decide), hnatural 6 (by decide), nofun⟩
  have hmessage : ∀ v ∈ Entries.get? withColour "message", ∃ text, v = .string text :=
    fun v hv => ⟨"hi", (Option.some.inj hv).symm⟩
  obtain ⟨c, hc⟩ := haccepts.mpr ⟨nofun, hmessage, nofun, nofun, nofun, hload⟩
  obtain ⟨hdescribed, hother, hsame, hnotices, -⟩ := htells c hc
  have htext : Value.string "hi" = .string c.message := hdescribed.message
  -- the array is seen as a load in one way only, part by part
  obtain ⟨p, ⟨⟨⟩⟩, hparts⟩ : ∃ p, Load.Shows (.array [.integer 5, .integer 6]) p ∧
    p.Describes c.load := hdescribed.load
  have hfive : (5 : Int) = c.load.connections := Value.integer.inj hparts.connections.2
  have hsix : (6 : Int) = c.load.connectRate := Value.integer.inj hparts.connectRate.2
  have hten : c.load.duration = 10 := hparts.duration
  refine ⟨hfree, hdistinct, c, hc, (Value.string.inj htext).symm, hdescribed.workers, ?_, ?_,
    hsame hdistinct, ?_⟩
  · have hconnections : c.load.connections = 5 := by omega
    have hrate : c.load.connectRate = 6 := by omega
    calc c.load = ⟨c.load.connections, c.load.connectRate, c.load.duration⟩ := rfl
      _ = { connections := 5, connectRate := 6 } := by rw [hconnections, hrate, hten]
  · rw [hother]
    simp [withColour, unknownEntries, knownKeys, Value.arrange, Value.arrangeEntries,
      Toml.sortEntries, List.mergeSort]
  · rw [hnotices]
    rfl

/-- The document of the text `load = 1979-05-27`. -/
def dateAsLoad : Entries := [("load", .datetime ⟨some ⟨1979, 5, 27⟩, none, none⟩)]

/-- It is understood, and describes the default configuration, although the load is neither a table
nor an array. -/
theorem date_stands_for_load :
    (Value.table dateAsLoad).AllTables Toml.FreeOfDateTimeKey ∧ ofEntries? dateAsLoad = some {} ∧
      ¬FitsSchema Load.Holds dateAsLoad := by
  refine ⟨.table (by decide) (by simp [dateAsLoad, Value.AllTables.datetime]), rfl, fun h => ?_⟩
  obtain ⟨p, hholds, -⟩ := h.load _ rfl
  cases hholds

end Settings

end LoadGenerator
