/-
Saving a configuration and loading it back.

A configuration is written as a document: its fields under their keys, an unset number of workers
left out, and the unknown keys behind them, in whatever order these come. Reading fills in defaults,
checks every range, and takes the unknown keys apart from the others again.

* **`Settings.IsProper`** — what holds of every configuration that was read, and of every one that
  the program makes without unknown keys;
* **`Settings.ofEntries?_of_kept`** — a document that reads back gives the configuration back;
* **`Settings.readsBack_entries`** — every document does in which only the load is a table;
* **`Settings.save_then_load`** — saving and loading, and what stands in the way of it.

Of the text of a document with unknown keys nothing but `Toml.ReadsBack` is used.
-/
import LoadGenerator.Proofs.Describing
import LoadGenerator.Proofs.DocumentReading

namespace LoadGenerator

open Toml (Entries Value)

namespace Settings

/-! ### What is known of a configuration -/

/-- Its counts fit into their fields, none of the unknown keys is a known one, and the values of
these are in the form in which values are kept. -/
structure IsProper (c : Settings) : Prop where
  connections : c.load.connections ≤ greatestCount
  connectRate : c.load.connectRate ≤ greatestCount
  unknown : ∀ e ∈ c.other, e.1 ∉ knownKeys
  arranged : ∀ e ∈ c.other, e.2.arrange = e.2

end Settings

/-! ### Reading fields -/

/-- No load holds more than its fields can. -/
theorem Load.bounds_of_ofValue? {v : Value} {l : Load} (h : Load.ofValue? v = some l) :
    l.connections ≤ greatestCount ∧ l.connectRate ≤ greatestCount ∧
      l.duration ≤ greatestInteger := by
  obtain ⟨p, -, hparts⟩ := ofValue?_eq_some_iff.mp h
  exact ⟨hparts.connections.le (by decide), hparts.connectRate.le (by decide),
    hparts.duration.le (by decide)⟩

/-- The fields of a load, as they are written. -/
def Load.entries (l : Load) : Entries :=
  [("connections", .integer l.connections), ("connect_rate", .integer l.connectRate),
    ("duration", .integer l.duration)]

theorem Load.toValue_eq (l : Load) : l.toValue = .table l.entries := rfl

/-- A load is read of any value that is kept as the one that was written. -/
theorem Load.ofValue?_of_settle? {l : Load} {v : Value}
    (hconnections : l.connections ≤ greatestCount) (hrate : l.connectRate ≤ greatestCount)
    (hduration : l.duration ≤ greatestInteger) (h : v.settle? = some l.toValue.arrange) :
    ofValue? v = some l := by
  obtain ⟨es, kept, rfl, hkept, hsort⟩ := Toml.settle?_eq_table h
  -- the fields may have been written in any order
  have hperm : kept.Perm l.entries :=
    (Toml.sortEntries_perm kept).symm.trans (hsort ▸ Toml.sortEntries_perm _)
  have hfield (key : String) {greatest default n : Nat} (hn : n ≤ greatest)
      (hmem : (key, .integer n) ∈ l.entries) :
      Entries.field es key (·.asNat? greatest) default = some n := by
    have hfilter := Toml.filter_key_of_mem (by simp [entries]) hmem
    obtain ⟨v, hv, hsettle⟩ :=
      (Entries.get?_of_settleEntries? hkept key).2 _ (Entries.get?_of_perm hperm hfilter)
    rw [Entries.field, hv]
    exact Toml.eq_of_settle? hsettle rfl ▸ Value.asNat?_eq_some_iff.mpr ⟨hn, rfl⟩
  simp only [ofValue?, ofEntries?, hfield "connections" hconnections (by simp [entries]),
    hfield "connect_rate" hrate (by simp [entries]),
    hfield "duration" hduration (by simp [entries]), Option.bind_eq_bind, Option.bind_some]
  rfl

namespace Settings

variable {c : Settings} {read kept : Entries} {text : String}

theorem isWritable_iff : c.isWritable = true ↔ (∀ n, c.workers = some n → n ≤ greatestInteger) ∧
    c.maxEvents ≤ greatestInteger ∧ c.load.duration ≤ greatestInteger := by
  cases h : c.workers <;> simp [isWritable, h, and_assoc]

/-- What was read is proper, and no number of it is too great to be written. -/
theorem proper_of_ofEntries? (h : ofEntries? read = some c) : c.IsProper ∧ c.isWritable = true := by
  obtain ⟨hdescribed, hother⟩ := ofEntries?_eq_some_iff.mp h
  -- a field of the load has its default, or a number that was in range when it was read
  have hbounds : c.load.connections ≤ greatestCount ∧ c.load.connectRate ≤ greatestCount ∧
      c.load.duration ≤ greatestInteger := by
    rcases hdescribed.load.cases with heq | ⟨v, hload⟩
    · rw [heq]
      decide
    · exact Load.bounds_of_ofValue? (Load.ofValue?_eq_some_iff.mpr hload)
  have hcount : ∀ n, c.workers = some n → n ≤ greatestInteger := by
    intro n hn
    rcases hdescribed.workers.cases with heq | ⟨v, m, hm, hle, -⟩
    · cases heq.symm.trans hn
    · exact Option.some.inj (hm.symm.trans hn) ▸ hle
  refine ⟨⟨hbounds.1, hbounds.2.1, fun e he => ?_,
    Toml.arrangeEntries_of_settle? _ _ hother⟩, ?_⟩
  · -- the keys of what is kept are the keys that have no field
    have hkey : e.1 ∈ c.other.map Prod.fst := List.mem_map_of_mem he
    rw [Toml.keys_of_settleEntries? hother] at hkey
    obtain ⟨d, hd, hde⟩ := List.mem_map.mp hkey
    have hunknown := (List.mem_filter.mp hd).2
    simpa [hde] using hunknown
  · exact isWritable_iff.mpr ⟨hcount, hdescribed.maxEvents.le (by decide), hbounds.2.2⟩

theorem proper_of_parse? (h : parse? text = some c) : c.IsProper ∧ c.isWritable = true := by
  obtain ⟨read, -, hread⟩ := Option.bind_eq_some_iff.mp h
  exact proper_of_ofEntries? hread

theorem IsProper.of_other_eq_nil (hother : c.other = [])
    (hconnections : c.load.connections ≤ greatestCount)
    (hrate : c.load.connectRate ≤ greatestCount) : c.IsProper where
  connections := hconnections
  connectRate := hrate
  unknown := by simp [hother]
  arranged := by simp [hother]

/-- The order of the unknown keys does not matter. -/
theorem IsProper.reorder (h : c.IsProper) {order : Entries} (horder : order.Perm c.other) :
    IsProper { c with other := order } where
  connections := h.connections
  connectRate := h.connectRate
  unknown := fun e he => h.unknown e (horder.mem_iff.mp he)
  arranged := fun e he => h.arranged e (horder.mem_iff.mp he)

/-! ### The entries of a configuration -/

/-- The entries of the fields. -/
def ownEntries (c : Settings) : Entries := { c with other := [] }.entries

theorem entries_eq (c : Settings) : c.entries = c.ownEntries ++ c.other := by
  simp [ownEntries, entries]

/-- The known keys come in their order, and at most the one of the workers is left out. -/
theorem keys_ownEntries (c : Settings) : (c.ownEntries.map Prod.fst).Sublist knownKeys := by
  cases h : c.workers with
  | none =>
    rw [ownEntries, entries, h]
    exact show ["targets", "message", "pin_workers", "max_events", "load"].Sublist knownKeys by
      decide
  | some n =>
    rw [ownEntries, entries, h]
    exact List.Sublist.refl knownKeys

theorem IsProper.nodup_keys (h : c.IsProper) (hother : (c.other.map Prod.fst).Nodup) :
    (c.entries.map Prod.fst).Nodup := by
  rw [entries_eq, List.map_append, List.nodup_append]
  refine ⟨(keys_ownEntries c).nodup (by decide), hother, ?_⟩
  rintro k hk _ hk' rfl
  obtain ⟨e, he, rfl⟩ := List.mem_map.mp hk'
  exact h.unknown e he ((keys_ownEntries c).subset hk)

/-- Of the values of the fields only the table of the load changes its order. -/
theorem arrangeEntries_ownEntries (c : Settings) :
    Value.arrangeEntries c.ownEntries =
      [("targets", .array (c.targets.map .string)), ("message", .string c.message)]
        ++ (c.workers.map fun n => ("workers", Value.integer n)).toList
        ++ [("pin_workers", .boolean c.pinWorkers), ("max_events", .integer c.maxEvents),
          ("load", c.load.toValue.arrange)] := by
  have htargets : Value.arrangeItems (c.targets.map .string) = c.targets.map .string := by
    rw [Toml.arrangeItems_eq_map, List.map_map]
    rfl
  cases h : c.workers <;>
    simp [ownEntries, entries, h, Value.arrangeEntries, Value.arrange, htargets]

theorem IsProper.arrangeEntries (h : c.IsProper) :
    Value.arrangeEntries c.entries = Value.arrangeEntries c.ownEntries ++ c.other := by
  have hother : c.other.map (fun e => (e.1, e.2.arrange)) = c.other :=
    (List.map_congr_left fun e he => by rw [h.arranged e he]; rfl).trans (List.map_id _)
  rw [entries_eq, Toml.arrangeEntries_eq_map, Toml.arrangeEntries_eq_map, List.map_append, hother]

/-- Behind the fields there is no entry of a known key. -/
theorem IsProper.filter_known (h : c.IsProper) {key : String} (hkey : key ∈ knownKeys) :
    (Value.arrangeEntries c.entries).filter (fun e => e.1 = key) =
      (Value.arrangeEntries c.ownEntries).filter fun e => e.1 = key := by
  have hother : c.other.filter (fun e => decide (e.1 = key)) = [] := by
    rw [List.filter_eq_nil_iff]
    rintro e he heq
    exact h.unknown e he (of_decide_eq_true heq ▸ hkey)
  rw [h.arrangeEntries, List.filter_append, hother, List.append_nil]

/-- The entries of keys without a field are the unknown ones. -/
theorem IsProper.filter_unknown (h : c.IsProper) :
    (Value.arrangeEntries c.entries).filter (fun e => !knownKeys.contains e.1) = c.other := by
  have hown :
      (Value.arrangeEntries c.ownEntries).filter (fun e => !knownKeys.contains e.1) = [] := by
    rw [List.filter_eq_nil_iff, Toml.arrangeEntries_eq_map]
    rintro e he
    obtain ⟨d, hd, rfl⟩ := List.mem_map.mp he
    simpa using (keys_ownEntries c).subset (List.mem_map_of_mem hd)
  have hother : c.other.filter (fun e => !knownKeys.contains e.1) = c.other :=
    List.filter_eq_self.mpr fun e he => by simpa using h.unknown e he
  rw [h.arrangeEntries, List.filter_append, hown, hother, List.nil_append]

/-! ### Reading what was kept -/

section Kept

variable (hproper : c.IsProper) (hkept : Value.settleEntries? read = some kept)
  (hperm : kept.Perm (Value.arrangeEntries c.entries))

include hproper hkept hperm

/-- A field that was written is read, with the value that is kept as the one that was written. -/
theorem field_of_kept {α : Type} {key : String} {w : Value} {f : Value → Option α} {default a : α}
    (hmem : (key, w) ∈ Value.arrangeEntries c.ownEntries)
    (hread : ∀ v : Value, v.settle? = some w → f v = some a) :
    Entries.field read key f default = some a := by
  have hkeys := Toml.keys_arrangeEntries c.ownEntries ▸ keys_ownEntries c
  have hkey : key ∈ knownKeys := hkeys.subset (List.mem_map_of_mem hmem)
  have hown := Toml.filter_key_of_mem (hkeys.nodup (by decide)) hmem
  have hget := Entries.get?_of_perm hperm ((hproper.filter_known hkey).trans hown)
  obtain ⟨v, hv, hsettle⟩ := (Entries.get?_of_settleEntries? hkept key).2 w hget
  rw [Entries.field, hv]
  exact hread v hsettle

/-- A field that was left out has its default. -/
theorem field_of_kept_nil {α : Type} {key : String} {f : Value → Option α} {default : α}
    (hkey : key ∈ knownKeys)
    (hown : (Value.arrangeEntries c.ownEntries).filter (fun e => e.1 = key) = []) :
    Entries.field read key f default = some default := by
  have hget := Entries.get?_of_perm_nil hperm ((hproper.filter_known hkey).trans hown)
  rw [Entries.field, (Entries.get?_of_settleEntries? hkept key).1 hget]

theorem targets_of_kept :
    Entries.field read "targets" (·.asStrings?) ({} : Settings).targets = some c.targets := by
  refine field_of_kept hproper hkept hperm (w := .array (c.targets.map .string))
    (by simp [arrangeEntries_ownEntries]) fun v hv => ?_
  obtain ⟨items, rfl, hitems⟩ := Toml.settle?_eq_array hv
  rw [Toml.eq_of_settleItems? hitems (by simp [Value.isScalar])]
  exact Value.asStrings?_eq_some_iff.mpr rfl

theorem message_of_kept :
    Entries.field read "message" (·.asString?) ({} : Settings).message = some c.message := by
  refine field_of_kept hproper hkept hperm (w := .string c.message)
    (by simp [arrangeEntries_ownEntries]) fun v hv => ?_
  rw [Toml.eq_of_settle? hv rfl]
  rfl

theorem workers_of_kept (hwritable : c.isWritable = true) :
    Entries.field read "workers" (fun v => (v.asNat? greatestInteger).map some)
      ({} : Settings).workers = some c.workers := by
  cases h : c.workers with
  | none =>
    refine field_of_kept_nil hproper hkept hperm (by decide) ?_
    simp [arrangeEntries_ownEntries, h]
  | some n =>
    refine field_of_kept hproper hkept hperm (w := .integer n)
      (by simp [arrangeEntries_ownEntries, h]) fun v hv => ?_
    have hn := Value.asNat?_eq_some_iff.mpr ⟨(isWritable_iff.mp hwritable).1 n h, rfl⟩
    rw [Toml.eq_of_settle? hv rfl, hn]
    rfl

theorem pinWorkers_of_kept :
    Entries.field read "pin_workers" (·.asBool?) ({} : Settings).pinWorkers =
      some c.pinWorkers := by
  refine field_of_kept hproper hkept hperm (w := .boolean c.pinWorkers)
    (by simp [arrangeEntries_ownEntries]) fun v hv => ?_
  rw [Toml.eq_of_settle? hv rfl]
  rfl

theorem maxEvents_of_kept (hwritable : c.isWritable = true) :
    Entries.field read "max_events" (·.asNat? greatestInteger) ({} : Settings).maxEvents =
      some c.maxEvents := by
  refine field_of_kept hproper hkept hperm (w := .integer c.maxEvents)
    (by simp [arrangeEntries_ownEntries]) fun v hv => ?_
  rw [Toml.eq_of_settle? hv rfl]
  exact Value.asNat?_eq_some_iff.mpr ⟨(isWritable_iff.mp hwritable).2.1, rfl⟩

theorem load_of_kept (hwritable : c.isWritable = true) :
    Entries.field read "load" Load.ofValue? ({} : Settings).load = some c.load := by
  refine field_of_kept hproper hkept hperm (w := c.load.toValue.arrange)
    (by simp [arrangeEntries_ownEntries]) fun v hv => ?_
  exact Load.ofValue?_of_settle? hproper.connections hproper.connectRate
    (isWritable_iff.mp hwritable).2.2 hv

omit hperm in
theorem other_of_kept (hperm : kept.Perm (Value.arrangeEntries c.entries)) : ∃ other,
    Value.settleEntries? (unknownEntries read) = some other ∧ other.Perm c.other := by
  refine ⟨_, Toml.settleEntries?_filter hkept fun k => !knownKeys.contains k, ?_⟩
  have hunknown := hperm.filter fun e => !knownKeys.contains e.1
  rwa [hproper.filter_unknown] at hunknown

/-- **What was written and kept is the configuration**, up to the order of the unknown keys. -/
theorem ofEntries?_of_kept (hwritable : c.isWritable = true) :
    ∃ other, ofEntries? read = some { c with other } ∧ other.Perm c.other := by
  obtain ⟨other, hother, horder⟩ := other_of_kept hproper hkept hperm
  refine ⟨other, ?_, horder⟩
  simp only [ofEntries?, targets_of_kept hproper hkept hperm, message_of_kept hproper hkept hperm,
    workers_of_kept hproper hkept hperm hwritable, pinWorkers_of_kept hproper hkept hperm,
    maxEvents_of_kept hproper hkept hperm hwritable, load_of_kept hproper hkept hperm hwritable,
    hother, Option.bind_eq_bind, Option.bind_some]
  rfl

end Kept

/-! ### Reading back without tables -/

/-- The fields that are written in front of the load. -/
def plainEntries (c : Settings) : Entries :=
  [("targets", .array (c.targets.map .string)), ("message", .string c.message)]
    ++ (c.workers.map fun n => ("workers", Value.integer n)).toList
    ++ [("pin_workers", .boolean c.pinWorkers), ("max_events", .integer c.maxEvents)]

theorem entries_eq_plain (c : Settings) :
    c.entries = c.plainEntries ++ ("load", c.load.toValue) :: c.other := by
  simp [entries, plainEntries]

theorem isFlat_integer {n : Nat} (hn : n ≤ greatestInteger) : Toml.IsFlat (.integer n) :=
  .natural (Nat.lt_of_le_of_lt hn (by decide))

theorem isFlat_plainEntries (hwritable : c.isWritable = true) :
    ∀ e ∈ c.plainEntries, Toml.IsFlat e.2 := by
  obtain ⟨hcount, hevents, -⟩ := isWritable_iff.mp hwritable
  have hworkers : ∀ e ∈ (c.workers.map fun n => ("workers", Value.integer n)).toList,
      Toml.IsFlat e.2 := by
    cases h : c.workers with
    | none => simp
    | some n => simpa using isFlat_integer (hcount n h)
  simp only [plainEntries, List.forall_mem_append, List.forall_mem_cons]
  exact ⟨⟨⟨.strings _, .string _, by simp⟩, hworkers⟩, .boolean _, isFlat_integer hevents, by simp⟩

theorem IsProper.isFlat_load (h : c.IsProper) (hwritable : c.isWritable = true) :
    ∀ e ∈ c.load.entries, Toml.IsFlat e.2 := by
  have hcount {n : Nat} (hn : n ≤ greatestCount) : n ≤ greatestInteger :=
    Nat.le_trans hn (by decide)
  simp only [Load.entries, List.forall_mem_cons]
  exact ⟨isFlat_integer (hcount h.connections), isFlat_integer (hcount h.connectRate),
    isFlat_integer (isWritable_iff.mp hwritable).2.2, by simp⟩

theorem settle?_plainEntries : ∀ e ∈ c.plainEntries, e.2.settle? = some e.2.arrange := by
  have htargets : Value.settleItems? (c.targets.map .string) =
      some (Value.arrangeItems (c.targets.map .string)) :=
    Toml.settleItems?_of_forall fun v hv => by
      obtain ⟨text, -, rfl⟩ := List.mem_map.mp hv
      rfl
  cases h : c.workers <;> simp [plainEntries, h, htargets, Value.settle?, Value.arrange]

theorem settle?_load (l : Load) : l.toValue.settle? = some l.toValue.arrange := by
  simp [Load.toValue, Value.settle?, Value.settleEntries?, Value.arrange, Value.arrangeEntries,
    Toml.dateTimeKey]

/-- **A document in which only the load is a table reads back.** -/
theorem readsBack_entries (hproper : c.IsProper) (hwritable : c.isWritable = true)
    (hflat : ∀ e ∈ c.other, Toml.IsFlat e.2) (hkeep : ∀ e ∈ c.other, e.2.settle? = some e.2)
    (hkeys : (c.other.map Prod.fst).Nodup) : Toml.ReadsBack c.entries := by
  intro text htext
  obtain rfl : Toml.writeDocument c.entries = text := by
    rw [Toml.writeDocument?] at htext
    split at htext
    · exact Option.some.inj htext
    · cases htext
  -- the table of the load comes last when it is read
  have hlast : (c.plainEntries ++ c.other ++ [("load", c.load.toValue)]).Perm c.entries := by
    rw [entries_eq_plain]
    exact (List.perm_append_singleton ..).trans List.perm_middle.symm
  -- so no key is repeated in the order of reading either
  have hnodup := (hlast.map Prod.fst).nodup_iff.mpr (hproper.nodup_keys hkeys)
  rw [List.map_append, List.nodup_append] at hnodup
  have hread := Toml.parse?_writeDocument
    (List.forall_mem_append.mpr ⟨isFlat_plainEntries hwritable, hflat⟩)
    (hproper.isFlat_load hwritable) (by simp [plainEntries]) hnodup.1
    (fun hmem => hnodup.2.2 "load" hmem "load" (by simp) rfl) (by simp [Load.entries])
  rw [← Load.toValue_eq, ← entries_eq_plain] at hread
  refine ⟨_, _, hread, Toml.settleEntries?_of_forall ?_, ?_⟩
  · simp only [List.forall_mem_append, List.forall_mem_singleton]
    exact ⟨⟨settle?_plainEntries, fun e he => by rw [hkeep e he, hproper.arranged e he]⟩,
      settle?_load _⟩
  · rw [Toml.arrangeEntries_eq_map, Toml.arrangeEntries_eq_map]
    exact hlast.map _

/-! ### Files -/

theorem areEntriesCountable_eq_all (es : Entries) :
    Value.areEntriesCountable es = es.all fun e => e.2.isCountable := by
  induction es with
  | nil => rfl
  | cons e es ih => rw [Value.areEntriesCountable, ih, List.all_cons]

theorem fromUTF8?_toUTF8 (text : String) : String.fromUTF8? text.toUTF8 = some text := by
  rw [String.fromUTF8?]
  exact dif_pos text.isValidUTF8

theorem readFrom_file (h : parse? text = some c) : readFrom (.file text.toUTF8) = .ok c := by
  simp only [readFrom, Place.read, fromUTF8?_toUTF8, h]

theorem saveTo_of_text_error {e : SaveError} (h : c.text = .error e) (place : Place) :
    c.saveTo place = (place, .error e) := by
  rw [saveTo, h]

theorem saveTo_of_text (h : c.text = .ok text) {place next : Place}
    {result : Except SystemError Unit} (hwrite : place.write text.toUTF8 = (next, result)) :
    c.saveTo place = (next, result.mapError .system) := by
  rw [saveTo, h]
  simp only [hwrite]

/-- Saving that fails leaves the place alone, be it for the text or for the system. -/
theorem place_of_saveTo_error {place : Place} {e : SaveError}
    (h : (c.saveTo place).2 = .error e) : (c.saveTo place).1 = place := by
  cases htext : c.text with
  | error why => rw [saveTo_of_text_error htext]
  | ok text =>
    cases hwrite : place.write text.toUTF8 with
    | mk next result =>
      rw [saveTo_of_text htext hwrite] at h ⊢
      cases result with
      | ok => cases h
      | error => exact Place.place_of_write_error hwrite

theorem text_of_not_isWritable (h : c.isWritable = false) : c.text = .error .tooGreat := by
  rw [text, toEntries?, if_neg (Bool.eq_false_iff.mp h)]

theorem text_of_isWritable (h : c.isWritable = true) :
    c.text = if Value.areEntriesCountable c.entries then .ok (Toml.writeDocument c.entries)
      else .error .uncountable := by
  rw [text, toEntries?, if_pos h]
  simp only [Toml.writeDocument?]
  cases Value.areEntriesCountable c.entries <;> rfl

theorem text_of_countable (hwritable : c.isWritable = true)
    (hcountable : Value.areEntriesCountable c.entries = true) :
    c.text = .ok (Toml.writeDocument c.entries) := by
  rw [text_of_isWritable hwritable, if_pos hcountable]

/-- The text of a configuration describes it, up to the order of the unknown keys. -/
theorem parse?_of_readsBack (hproper : c.IsProper) (hwritable : c.isWritable = true)
    (hcountable : Value.areEntriesCountable c.entries = true) (hreads : Toml.ReadsBack c.entries) :
    ∃ other, parse? (Toml.writeDocument c.entries) = some { c with other } ∧
      other.Perm c.other := by
  obtain ⟨read, kept, hread, hkept, hperm⟩ :=
    hreads _ (by rw [Toml.writeDocument?, if_pos hcountable])
  obtain ⟨other, hother, horder⟩ := ofEntries?_of_kept hproper hkept hperm hwritable
  exact ⟨other, by rw [parse?, hread]; exact hother, horder⟩

/-- **Saving a configuration and loading it back.** Let a configuration be read from a text, or have
no unknown keys, and let its unknown keys be written in any order. If its numbers fit into a
document, as they do after reading, and no run of quotation marks is too long to be counted, then it
is saved wherever a file is or can be made, and loading gives it back, with the unknown keys in some
order. A run too long ends the program, a number too great is an error, and neither touches the
place, nor does a file that cannot be opened. That a document reads back is supposed only where
there are unknown keys. -/
theorem save_then_load {c : Settings} {order : Entries}
    (hc : (∃ text, parse? text = some c) ∨
      c.other = [] ∧ c.load.connections ≤ greatestCount ∧ c.load.connectRate ≤ greatestCount)
    (horder : order.Perm c.other)
    (hreads : c.other = [] ∨ Toml.ReadsBack { c with other := order }.entries) :
    let d : Settings := { c with other := order }
    let fits := (∀ n, c.workers = some n → n ≤ greatestInteger) ∧
      c.maxEvents ≤ greatestInteger ∧ c.load.duration ≤ greatestInteger
    let isCountable := Value.areEntriesCountable c.entries
    ((∃ text, parse? text = some c) → fits) ∧
      (fits → isCountable = true →
        ∀ place, (place = .vacant ∨ ∃ content, place = .file content) →
          ∃ saved other, d.saveTo place = (saved, .ok ()) ∧
            readFrom saved = .ok { c with other } ∧ other.Perm c.other) ∧
      (fits → isCountable = false →
        ∀ place, d.saveTo place = (place, .error .uncountable)) ∧
      (¬fits → ∀ place, d.saveTo place = (place, .error .tooGreat)) ∧
      ∀ place e, (d.saveTo place).2 = .error e → (d.saveTo place).1 = place := by
  intro d fits isCountable
  have hfits : d.isWritable = true ↔ fits := isWritable_iff
  have hproper : d.IsProper := by
    refine IsProper.reorder ?_ horder
    rcases hc with ⟨text, htext⟩ | ⟨hother, hconnections, hrate⟩
    · exact (proper_of_parse? htext).1
    · exact .of_other_eq_nil hother hconnections hrate
  -- the order of the unknown keys does not matter for what is countable
  have hcountable : Value.areEntriesCountable d.entries = isCountable := by
    rw [areEntriesCountable_eq_all, entries_eq]
    simp only [isCountable, areEntriesCountable_eq_all, entries_eq c, List.all_append]
    rw [show d.other.all _ = c.other.all _ from horder.all_eq]
    rfl
  refine ⟨fun ⟨text, htext⟩ => hfits.mp (proper_of_parse? htext).2,
    fun hnumbers hyes place hplace => ?_, fun hnumbers hno => ?_, fun hgreat => ?_,
    fun place e => place_of_saveTo_error⟩
  · have hwritable := hfits.mpr hnumbers
    -- without unknown keys the load is the only table, and the document reads back
    have hreads : Toml.ReadsBack d.entries := by
      rcases hreads with hother | hreads
      · have hnil : d.other = [] := List.perm_nil.mp (hother ▸ horder)
        exact readsBack_entries hproper hwritable (by simp [hnil]) (by simp [hnil]) (by simp [hnil])
      · exact hreads
    obtain ⟨other, hparse, hperm⟩ :=
      parse?_of_readsBack hproper hwritable (hcountable.trans hyes) hreads
    refine ⟨.file (Toml.writeDocument d.entries).toUTF8, other, ?_, readFrom_file hparse,
      hperm.trans horder⟩
    -- the text is known, and the place takes it
    have htext := text_of_countable hwritable (hcountable.trans hyes)
    rcases hplace with rfl | ⟨content, rfl⟩ <;> exact saveTo_of_text htext rfl
  -- a text that cannot be had leaves the place alone
  · apply saveTo_of_text_error
    rw [text_of_isWritable (hfits.mpr hnumbers), hcountable, hno, if_neg Bool.false_ne_true]
  · refine saveTo_of_text_error (text_of_not_isWritable ?_)
    rwa [Bool.eq_false_iff, ne_eq, hfits]

/-- A configuration with one key that the program does not know, and texts that need quoting. -/
def withUnknownKey : Settings :=
  { targets := ["[::1]:8080", ""], message := "it's \"so\"\n", workers := some 2
    other := [("extra", .integer 7)] }

theorem withUnknownKey_proper : withUnknownKey.IsProper where
  connections := by decide
  connectRate := by decide
  unknown := by simp [withUnknownKey, knownKeys]
  arranged := by simp [withUnknownKey, Value.arrange]

theorem withUnknownKey_readsBack : Toml.ReadsBack withUnknownKey.entries := by
  refine readsBack_entries withUnknownKey_proper rfl ?_ ?_ (by decide)
  · simpa [withUnknownKey] using isFlat_integer (show 7 ≤ greatestInteger by decide)
  · simp [withUnknownKey, Value.settle?]

/-- It is read from the text that it is written as. -/
theorem exists_parse?_withUnknownKey : ∃ text, parse? text = some withUnknownKey := by
  obtain ⟨other, hparse, hperm⟩ :=
    parse?_of_readsBack withUnknownKey_proper rfl (by decide) withUnknownKey_readsBack
  refine ⟨_, hparse.trans ?_⟩
  rw [List.perm_singleton.mp hperm]
  rfl

/-- The default configuration, with 256 quotation marks in a row for a message. -/
def quotationMarks : Settings := { message := String.ofList (List.replicate 256 '"') }

theorem quotationMarks_not_countable :
    Value.areEntriesCountable quotationMarks.entries = false := by
  have hmarks : (Value.string quotationMarks.message).isCountable = false := by
    rw [Value.isCountable, quotationMarks, String.toList_ofList]
    exact Toml.not_isCountable_replicate (by decide)
  rw [areEntriesCountable_eq_all, List.all_eq_false]
  refine ⟨("message", .string quotationMarks.message), by simp [entries], ?_⟩
  rw [hmarks]
  exact Bool.false_ne_true

/-- The default configuration, with a number of events that no document can hold. -/
def tooManyEvents : Settings := { maxEvents := greatestInteger + 1 }

/-- Saved at a vacant place, the configuration with the unknown key is given back by loading. The
quotation marks cannot be counted and the number of events cannot be written, and the file that is
there keeps its content. -/
theorem save_then_load_withUnknownKey :
    (∃ saved other, withUnknownKey.saveTo .vacant = (saved, .ok ()) ∧
      readFrom saved = .ok { withUnknownKey with other } ∧ other.Perm withUnknownKey.other) ∧
    quotationMarks.saveTo (.file "old".toUTF8) = (.file "old".toUTF8, .error .uncountable) ∧
    tooManyEvents.saveTo (.file "old".toUTF8) = (.file "old".toUTF8, .error .tooGreat) := by
  refine ⟨?_, ?_, ?_⟩
  · have h := save_then_load (.inl exists_parse?_withUnknownKey)
      (List.Perm.refl withUnknownKey.other) (.inr withUnknownKey_readsBack)
    exact h.2.1 (h.1 exists_parse?_withUnknownKey) (by decide) .vacant (.inl rfl)
  · have h := save_then_load (c := quotationMarks) (.inr ⟨rfl, by decide, by decide⟩)
      (List.Perm.refl []) (.inl rfl)
    exact h.2.2.1 ⟨nofun, by decide, by decide⟩ quotationMarks_not_countable _
  · have h := save_then_load (c := tooManyEvents) (.inr ⟨rfl, by decide, by decide⟩)
      (List.Perm.refl []) (.inl rfl)
    exact h.2.2.2.1 (fun hfits => absurd hfits.2.1 (by decide)) _

end Settings

end LoadGenerator
