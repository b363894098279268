/-
The form in which values are kept.

A value that the program has no field for is kept with the keys of its tables in order. Arranging a
value so is all that happens to it, unless one of its tables is the carrier of a date-time.

* **`Value.arrange`** — a value with the keys of all its tables in order;
* **`Value.arrange_of_settle?`** — what was kept is in that form already;
* **`Entries.get?_of_settleEntries?`** — the values of a table are kept one by one;
* **`ReadsBack`** — a document, once written, is read as it was, up to the order of keys.
-/
import LoadGenerator.Config.Store

namespace LoadGenerator.Toml

variable {v w : Value} {es ks : Entries} {key : String}

namespace Value

mutual

/-- A value with the keys of all its tables in order. -/
def arrange : Value → Value
  | array items => array (arrangeItems items)
  | table entries => table (sortEntries (arrangeEntries entries))
  | v => v

/-- `arrange` on the items of an array. -/
def arrangeItems : List Value → List Value
  | [] => []
  | v :: rest => arrange v :: arrangeItems rest

/-- `arrange` on the values of a table, whose keys stay where they are. -/
def arrangeEntries : List (String × Value) → List (String × Value)
  | [] => []
  | (k, v) :: rest => (k, arrange v) :: arrangeEntries rest

end

end Value

/-! ### Arranging -/

theorem sortEntries_perm {α : Type} (entries : List (String × α)) :
    (sortEntries entries).Perm entries :=
  List.mergeSort_perm ..

/-- Sorting sorted entries does nothing. -/
theorem sortEntries_sortEntries {α : Type} (entries : List (String × α)) :
    sortEntries (sortEntries entries) = sortEntries entries := by
  refine List.mergeSort_of_pairwise (List.pairwise_mergeSort ?_ ?_ entries)
  · intro a b c hab hbc
    simp only [decide_eq_true_eq] at hab hbc ⊢
    exact String.le_trans hab hbc
  · intro a b
    simpa using String.le_total a.1 b.1

theorem arrangeEntries_eq_map (es : Entries) :
    Value.arrangeEntries es = es.map fun e => (e.1, e.2.arrange) := by
  induction es with
  | nil => rfl
  | cons e es ih => rw [Value.arrangeEntries, ih, List.map_cons]

theorem keys_arrangeEntries (es : Entries) :
    (Value.arrangeEntries es).map Prod.fst = es.map Prod.fst := by
  rw [arrangeEntries_eq_map, List.map_map]
  rfl

theorem arrangeItems_eq_map (items : List Value) :
    Value.arrangeItems items = items.map Value.arrange := by
  induction items with
  | nil => rfl
  | cons v items ih => rw [Value.arrangeItems, ih, List.map_cons]

/-- A value is a table, and kept as one or as a date-time, or stays in its kind. -/
theorem settle?_table_cases (h : (Value.table es).settle? = some w) :
    (∃ ks, Value.settleEntries? es = some ks ∧ w = .table (sortEntries ks)) ∨
      ∃ d, w = .datetime d := by
  cases es with
  | nil =>
    obtain rfl := Option.some.inj h
    exact .inl ⟨[], rfl, by simp [sortEntries]⟩
  | cons e rest =>
    obtain ⟨k, v⟩ := e
    unfold Value.settle? at h
    split at h
    -- the first key is that of a date-time, and then the table is one or is refused
    · right
      split at h
      · obtain ⟨d, -, hd⟩ := Option.map_eq_some_iff.mp h
        exact ⟨d, hd.symm⟩
      · cases h
    · obtain ⟨ks, hks, hw⟩ := Option.map_eq_some_iff.mp h
      exact .inl ⟨ks, hks, hw.symm⟩

theorem settleItems?_cons (v : Value) (rest : List Value) :
    Value.settleItems? (v :: rest) =
      v.settle?.bind fun v => (Value.settleItems? rest).map (v :: ·) := by
  rw [Value.settleItems?]
  cases v.settle? <;> cases Value.settleItems? rest <;> rfl

theorem settleEntries?_cons (k : String) (v : Value) (rest : Entries) :
    Value.settleEntries? ((k, v) :: rest) =
      v.settle?.bind fun v => (Value.settleEntries? rest).map ((k, v) :: ·) := by
  rw [Value.settleEntries?]
  cases v.settle? <;> cases Value.settleEntries? rest <;> rfl

mutual

/-- **What was kept is arranged already.** -/
theorem Value.arrange_of_settle? : (v : Value) → ∀ w, v.settle? = some w → w.arrange = w
  | .array items, w, h => by
    rw [Value.settle?] at h
    obtain ⟨kept, hkept, rfl⟩ := Option.map_eq_some_iff.mp h
    rw [Value.arrange, arrangeItems_of_settle? items kept hkept]
  | .table es, w, h => by
    rcases settle?_table_cases h with ⟨ks, hks, rfl⟩ | ⟨d, rfl⟩
    · have hall := arrangeEntries_of_settle? es ks hks
      -- what holds of every entry does not depend on their order
      have hsorted : Value.arrangeEntries (sortEntries ks) = sortEntries ks := by
        rw [arrangeEntries_eq_map]
        refine (List.map_congr_left fun e he => ?_).trans (List.map_id _)
        rw [hall e ((sortEntries_perm ks).mem_iff.mp he)]
        rfl
      -- entries that are in order already are not moved again
      rw [Value.arrange, hsorted, sortEntries_sortEntries]
    · rfl
  | .string _, w, h | .integer _, w, h | .float _, w, h | .boolean _, w, h | .datetime _, w, h => by
    obtain rfl := Option.some.inj h
    rfl

theorem arrangeItems_of_settle? : (items : List Value) → ∀ kept,
    Value.settleItems? items = some kept → Value.arrangeItems kept = kept
  | [], kept, h => by
    obtain rfl := Option.some.inj h
    rfl
  | v :: rest, kept, h => by
    rw [settleItems?_cons] at h
    obtain ⟨w, hw, h⟩ := Option.bind_eq_some_iff.mp h
    obtain ⟨ws, hws, rfl⟩ := Option.map_eq_some_iff.mp h
    rw [Value.arrangeItems, Value.arrange_of_settle? v w hw, arrangeItems_of_settle? rest ws hws]

theorem arrangeEntries_of_settle? : (es : List (String × Value)) → ∀ kept,
    Value.settleEntries? es = some kept → ∀ e ∈ kept, e.2.arrange = e.2
  | [], kept, h => by
    obtain rfl := Option.some.inj h
    simp
  | (k, v) :: rest, kept, h => by
    rw [settleEntries?_cons] at h
    obtain ⟨w, hw, h⟩ := Option.bind_eq_some_iff.mp h
    obtain ⟨ws, hws, rfl⟩ := Option.map_eq_some_iff.mp h
    rw [List.forall_mem_cons]
    exact ⟨Value.arrange_of_settle? v w hw, arrangeEntries_of_settle? rest ws hws⟩

end

/-! ### Values by what is kept of them -/

theorem settle?_eq_array {kept : List Value} (h : v.settle? = some (.array kept)) :
    ∃ items, v = .array items ∧ Value.settleItems? items = some kept := by
  cases v with
  | array items =>
    rw [Value.settle?] at h
    obtain ⟨ws, hws, heq⟩ := Option.map_eq_some_iff.mp h
    cases heq
    exact ⟨items, rfl, hws⟩
  | table es => rcases settle?_table_cases h with ⟨ks, -, heq⟩ | ⟨d, heq⟩ <;> cases heq
  | _ => cases Option.some.inj h

theorem settle?_eq_table {kept : Entries} (h : v.settle? = some (.table kept)) :
    ∃ es ks, v = .table es ∧ Value.settleEntries? es = some ks ∧ kept = sortEntries ks := by
  cases v with
  | array items =>
    rw [Value.settle?] at h
    obtain ⟨ws, -, heq⟩ := Option.map_eq_some_iff.mp h
    cases heq
  | table es =>
    -- only a table is kept as a table
    rcases settle?_table_cases h with ⟨ks, hks, heq⟩ | ⟨d, heq⟩
    · cases heq
      exact ⟨es, ks, rfl, hks, rfl⟩
    · cases heq
  | _ => cases Option.some.inj h

/-- The value has no parts, and is no date-time. -/
def Value.isScalar : Value → Bool
  | string _ | integer _ | float _ | boolean _ => true
  | _ => false

/-- A value without parts is kept of nothing but itself. -/
theorem eq_of_settle? (h : v.settle? = some w) (hw : w.isScalar = true) : v = w := by
  cases v with
  | array items =>
    rw [Value.settle?] at h
    obtain ⟨ws, -, rfl⟩ := Option.map_eq_some_iff.mp h
    cases hw
  | table es => rcases settle?_table_cases h with ⟨ks, -, rfl⟩ | ⟨d, rfl⟩ <;> cases hw
  | _ => exact Option.some.inj h

theorem eq_of_settleItems? {items kept : List Value} (h : Value.settleItems? items = some kept)
    (hkept : ∀ w ∈ kept, w.isScalar = true) : items = kept := by
  induction items generalizing kept with
  | nil => exact Option.some.inj h
  | cons v rest ih =>
    rw [settleItems?_cons] at h
    obtain ⟨w, hw, h⟩ := Option.bind_eq_some_iff.mp h
    obtain ⟨ws, hws, rfl⟩ := Option.map_eq_some_iff.mp h
    rw [List.forall_mem_cons] at hkept
    rw [eq_of_settle? hw hkept.1, ih hws hkept.2]

/-- Items are kept when each of them is. -/
theorem settleItems?_of_forall {items : List Value} (h : ∀ v ∈ items, v.settle? = some v.arrange) :
    Value.settleItems? items = some (Value.arrangeItems items) := by
  induction items with
  | nil => rfl
  | cons v rest ih =>
    rw [List.forall_mem_cons] at h
    rw [settleItems?_cons, h.1, ih h.2]
    rfl

/-! ### Tables -/

theorem keys_of_settleEntries? (h : Value.settleEntries? es = some ks) :
    ks.map Prod.fst = es.map Prod.fst := by
  induction es generalizing ks with
  | nil =>
    obtain rfl := Option.some.inj h
    rfl
  | cons e rest ih =>
    rw [settleEntries?_cons] at h
    obtain ⟨w, -, h⟩ := Option.bind_eq_some_iff.mp h
    obtain ⟨ws, hws, rfl⟩ := Option.map_eq_some_iff.mp h
    rw [List.map_cons, List.map_cons, ih hws]

/-- Some of the entries are kept as they are kept among all. -/
theorem settleEntries?_filter (h : Value.settleEntries? es = some ks) (p : String → Bool) :
    Value.settleEntries? (es.filter fun e => p e.1) = some (ks.filter fun e => p e.1) := by
  induction es generalizing ks with
  | nil =>
    obtain rfl := Option.some.inj h
    rfl
  | cons e rest ih =>
    obtain ⟨k, v⟩ := e
    rw [settleEntries?_cons] at h
    obtain ⟨w, hw, h⟩ := Option.bind_eq_some_iff.mp h
    obtain ⟨ws, hws, rfl⟩ := Option.map_eq_some_iff.mp h
    simp only [List.filter_cons]
    -- an entry that is left out was kept by itself, and so it can be left out here
    split
    · rw [settleEntries?_cons, hw, ih hws]
      rfl
    · exact ih hws

/-- Entries are kept when each of their values is. -/
theorem settleEntries?_of_forall (h : ∀ e ∈ es, e.2.settle? = some e.2.arrange) :
    Value.settleEntries? es = some (Value.arrangeEntries es) := by
  induction es with
  | nil => rfl
  | cons e rest ih =>
    rw [List.forall_mem_cons] at h
    rw [settleEntries?_cons, h.1, ih h.2]
    rfl

/-- Where no key is repeated, an entry is the only one of its key. -/
theorem filter_key_of_mem (hnodup : (es.map Prod.fst).Nodup) (hmem : (key, w) ∈ es) :
    es.filter (fun e => e.1 = key) = [(key, w)] := by
  induction es with
  | nil => cases hmem
  | cons e rest ih =>
    rw [List.map_cons, List.nodup_cons] at hnodup
    -- a later entry with this key would be a repeated one
    have hne : ∀ d ∈ rest, d.1 ≠ e.1 := by
      rintro d hd heq
      exact hnodup.1 (heq ▸ List.mem_map_of_mem hd)
    rcases List.mem_cons.mp hmem with rfl | hmem
    · rw [List.filter_cons_of_pos (by simp), List.filter_eq_nil_iff.mpr (by simpa using hne)]
    · have hkey : e.1 ≠ key := (hne _ hmem).symm
      simp [hkey, ih hnodup.2 hmem]

namespace Entries

theorem get?_eq_head? (es : Entries) (key : String) :
    get? es key = ((es.filter fun e => e.1 = key).head?).map Prod.snd := by
  rw [get?, List.head?_filter]

/-- What is kept of a table has a key when the table has it. -/
theorem get?_of_settleEntries? (h : Value.settleEntries? es = some ks) (key : String) :
    (get? ks key = none → get? es key = none) ∧
      ∀ w, get? ks key = some w → ∃ v, get? es key = some v ∧ v.settle? = some w := by
  -- the first entry of a key is the first among those of the key alone
  have hfilter := settleEntries?_filter h fun k => decide (k = key)
  rw [get?_eq_head?, get?_eq_head?]
  cases hes : es.filter fun e => decide (e.1 = key) with
  | nil =>
    rw [hes] at hfilter
    obtain hks := Option.some.inj hfilter
    simp [← hks]
  | cons e rest =>
    rw [hes, settleEntries?_cons] at hfilter
    obtain ⟨w, hw, hfilter⟩ := Option.bind_eq_some_iff.mp hfilter
    obtain ⟨ws, -, hks⟩ := Option.map_eq_some_iff.mp hfilter
    simpa [← hks] using hw

/-- In whatever order the entries come, a key that is there once is found with its value. -/
theorem get?_of_perm {ws : Entries} (h : ks.Perm ws)
    (hws : ws.filter (fun e => e.1 = key) = [(key, w)]) : get? ks key = some w := by
  have hfilter := h.filter fun e => decide (e.1 = key)
  rw [hws] at hfilter
  rw [get?_eq_head?, List.perm_singleton.mp hfilter]
  rfl

theorem get?_of_perm_nil {ws : Entries} (h : ks.Perm ws)
    (hws : ws.filter (fun e => e.1 = key) = []) : get? ks key = none := by
  have hfilter := h.filter fun e => decide (e.1 = key)
  rw [hws] at hfilter
  rw [get?_eq_head?, List.perm_nil.mp hfilter]
  rfl

end Entries

/-! ### Reading back -/

/-- The document, once written, is read as it was: the same keys with the same values, up to the
order of keys. -/
def ReadsBack (es : Entries) : Prop :=
  ∀ text, writeDocument? es = some text → ∃ read kept, parse? text = some read ∧
    Value.settleEntries? read = some kept ∧ kept.Perm (Value.arrangeEntries es)

end LoadGenerator.Toml
