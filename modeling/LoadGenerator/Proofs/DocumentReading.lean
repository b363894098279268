/-
Documents read back.

A document of values and one table puts the values first and the table behind a header. Reading it
line by line builds the same tree again, with the table at its end.

* **`Draft.readLine?_line`**, **`Draft.readLine?_header`** — one line of a document, and a header;
* **`Draft.readLines?_lines`** — the lines of a table;
* **`parse?_writeDocument`** — a whole document.
-/
import LoadGenerator.Proofs.ValueReading

namespace LoadGenerator.Toml

open LoadGenerator.Text

variable {c : Char} {s rest : List Char} {key : String} {v : Value} {es fs : Entries} {o : Origin}

/-! ### Keys -/

/-- What a key starts with. -/
theorem exists_writeKey (key : String) :
    ∃ c t, (writeKey key).toList = c :: t ∧ (c = '"' ∨ c = '\'' ∨ isBareChar c = true) := by
  unfold writeKey
  simp only
  -- a bare key begins with one of its characters, and any other key with a quotation mark
  split
  · next h =>
    simp only [Bool.and_eq_true, Bool.not_eq_true', List.isEmpty_eq_false_iff,
      List.all_eq_true] at h
    obtain ⟨c, t, htext⟩ := List.exists_cons_of_ne_nil h.1
    exact ⟨c, t, htext, .inr (.inr (h.2 c (htext ▸ List.mem_cons_self)))⟩
  · split
    · exact ⟨_, _, toList_writeStyled_basic _, .inl rfl⟩
    · exact ⟨_, _, toList_writeStyled_literal _, .inr (.inl rfl)⟩
    · exact ⟨_, _, toList_writeStyled_basic _, .inl rfl⟩

/-- A character that no key starts with. -/
theorem head?_writeKey (hdouble : c ≠ '"') (hsingle : c ≠ '\'') (hbare : isBareChar c = false)
    (key : String) (rest : List Char) : ((writeKey key).toList ++ rest).head? ≠ some c := by
  obtain ⟨d, t, htext, hd⟩ := exists_writeKey key
  rw [htext]
  intro heq
  obtain rfl : d = c := Option.some.inj heq
  rcases hd with rfl | rfl | hd
  · exact hdouble rfl
  · exact hsingle rfl
  · rw [hbare] at hd
    cases hd

theorem skipBlanks_cons (h : isLineBlank c = false) (s : List Char) :
    skipBlanks (c :: s) = c :: s := by
  rw [skipBlanks, List.dropWhile_cons, h, if_neg Bool.false_ne_true]

theorem skipBlanks_space (s : List Char) : skipBlanks (' ' :: s) = skipBlanks s := rfl

theorem skipBlanks_of_head? (hspace : s.head? ≠ some ' ') (htab : s.head? ≠ some '\t') :
    skipBlanks s = s := by
  cases s with
  | nil => rfl
  | cons c s =>
    refine skipBlanks_cons ?_ s
    simp only [List.head?_cons, ne_eq, Option.some.injEq] at hspace htab
    simp [isLineBlank, hspace, htab]

theorem skipBlanks_writeKey (key : String) (rest : List Char) :
    skipBlanks ((writeKey key).toList ++ rest) = (writeKey key).toList ++ rest :=
  skipBlanks_of_head? (head?_writeKey (by decide) (by decide) rfl key rest)
    (head?_writeKey (by decide) (by decide) rfl key rest)

/-- A key alone is a path. -/
theorem readKeyPath?_writeKey (hdouble : s.head? ≠ some '"')
    (hbare : ∀ c ∈ s.head?, isBareChar c = false) (hpoint : (skipBlanks s).head? ≠ some '.')
    (key : String) :
    readKeyPath? greatestDepth ((writeKey key).toList ++ s) = some ([key], skipBlanks s) := by
  rw [show greatestDepth = 78 + 1 from rfl, readKeyPath?, skipBlanks_writeKey,
    readKey?_writeKey hdouble hbare]
  simp only [Option.bind_eq_bind, Option.bind_some]
  split
  · next heq =>
    rw [heq] at hpoint
    simp at hpoint
  · rfl

/-! ### Lines -/

/-- The text of a key with its value. -/
def lineText (e : String × Value) : List Char :=
  (writeKey e.1).toList ++ ' ' :: '=' :: ' ' :: (e.2.inline.toList ++ ['\n'])

/-- The text of a header. -/
def headerText (key : String) : List Char := '[' :: ((writeKey key).toList ++ [']', '\n'])

theorem endOfLine?_newline (rest : List Char) : endOfLine? ('\n' :: rest) = some rest := rfl

theorem readAssignment?_line (hv : ReadsInline greatestDepth v) (key : String) (rest : List Char) :
    readAssignment? (readValue? greatestDepth) (lineText (key, v) ++ rest) =
      some (([], key, v), '\n' :: rest) := by
  -- the value begins with no blank, so all that is skipped is the one in front of it
  obtain ⟨c, t, htext, hc⟩ := hv.starts
  have hvalue := hv.reads ('\n' :: rest) (.inl rfl)
  have hblank : skipBlanks (' ' :: (v.inline.toList ++ '\n' :: rest)) =
      v.inline.toList ++ '\n' :: rest := by
    simp only [isStart, Bool.and_eq_true, Bool.not_eq_true'] at hc
    rw [htext, skipBlanks_space]
    exact skipBlanks_cons hc.1.1.1.1 _
  have hpath := readKeyPath?_writeKey (s := ' ' :: '=' :: ' ' :: (v.inline.toList ++ '\n' :: rest))
    (by simp) (by simp; decide) (by rw [skipBlanks_space, skipBlanks_cons rfl]; simp) key
  rw [skipBlanks_space, skipBlanks_cons rfl] at hpath
  simp [readAssignment?, lineText, hpath, hblank, hvalue]

/-- A line that starts with a key is no header, and not the end of its line. -/
theorem endOfLine?_writeKey (key : String) (rest : List Char) :
    endOfLine? ((writeKey key).toList ++ rest) = none := by
  -- the first character of a key neither ends a line nor begins a comment
  have hcomment := head?_writeKey (c := '#') (by decide) (by decide) rfl key rest
  have hbreak := head?_writeKey (c := '\n') (by decide) (by decide) rfl key rest
  have hreturn := head?_writeKey (c := '\r') (by decide) (by decide) rfl key rest
  rw [endOfLine?, skipBlanks_writeKey]
  obtain ⟨d, t, htext, -⟩ := exists_writeKey key
  rw [htext, List.cons_append] at hcomment hbreak hreturn ⊢
  have hskip : skipComment (d :: (t ++ rest)) = d :: (t ++ rest) := by
    rw [skipComment]
    rintro u ⟨rfl⟩
    exact hcomment rfl
  rw [hskip]
  exact newline?_eq_none hbreak hreturn

namespace Draft

variable {d : Draft} {root : Branch}

/-- A key with its value is assigned in the table of the last header. -/
theorem readLine?_line (hv : ReadsInline greatestDepth v)
    (h : d.root.assign d.header [] key v = some root) (rest : List Char) :
    d.readLine? (lineText (key, v) ++ rest) = some ({ d with root }, rest) := by
  have hbracket := head?_writeKey (c := '[') (by decide) (by decide) rfl key
    (' ' :: '=' :: ' ' :: (v.inline.toList ++ ['\n']) ++ rest)
  have hend := endOfLine?_writeKey key (' ' :: '=' :: ' ' :: (v.inline.toList ++ ['\n']) ++ rest)
  rw [← List.append_assoc] at hbracket hend
  have hread := readAssignment?_line hv key rest
  unfold readLine?
  -- no line of a value is taken for a header, since no key begins with a bracket
  split
  · next heq =>
    rw [show (writeKey key).toList ++ _ ++ rest = _ from heq] at hbracket
    simp at hbracket
  · next heq =>
    rw [show (writeKey key).toList ++ _ ++ rest = _ from heq] at hbracket
    simp at hbracket
  · rw [show endOfLine? (lineText (key, v) ++ rest) = none from hend, hread]
    simp [endOfLine?_newline, h]

/-- A header opens its table. -/
theorem readLine?_header (h : d.root.openTable [] key = some root) (rest : List Char) :
    d.readLine? (headerText key ++ rest) = some ({ root, header := [key] }, rest) := by
  have hpath := readKeyPath?_writeKey (s := ']' :: '\n' :: rest) (by simp) (by simp; decide)
    (by rw [skipBlanks_cons rfl]; simp) key
  have hbracket := head?_writeKey (c := '[') (by decide) (by decide) rfl key (']' :: '\n' :: rest)
  rw [skipBlanks_cons rfl] at hpath
  rw [headerText, List.cons_append, List.append_assoc]
  simp only [List.cons_append, List.nil_append]
  unfold readLine?
  split
  · next heq =>
    rw [(List.cons.inj heq).2] at hbracket
    simp at hbracket
  · next heq =>
    obtain rfl := (List.cons.inj heq).2
    simp [readHeader?, hpath, endOfLine?_newline, h]
  · next hne => exact absurd rfl (hne _)

theorem readLine?_newline (rest : List Char) : d.readLine? ('\n' :: rest) = some (d, rest) := rfl

theorem readLines?_step {d' : Draft} (hs : skipBlanks s = s) (hne : s ≠ [])
    (h : d.readLine? s = some (d', rest)) (fuel : Nat) :
    readLines? (fuel + 1) d s = readLines? fuel d' rest := by
  rw [readLines?, hs]
  split
  · exact absurd rfl hne
  · rw [h]
    rfl

/-- **The lines of a table read back**, one after the other. Which table that is, is up to the
drafts: `draft es` holds `es` there. -/
theorem readLines?_lines (draft : Entries → Draft) (es : Entries)
    (hdraft : ∀ es key v, key ∉ es.map Prod.fst →
      ∃ root, (draft es).root.assign (draft es).header [] key v = some root ∧
        { draft es with root } = draft (es ++ [(key, v)]))
    (hfs : ∀ e ∈ fs, ReadsInline greatestDepth e.2) (hnodup : ((es ++ fs).map Prod.fst).Nodup)
    (fuel : Nat) (rest : List Char) :
    readLines? (fuel + fs.length) (draft es) (fs.flatMap lineText ++ rest) =
      readLines? fuel (draft (es ++ fs)) rest := by
  -- induction on the lines; the draft holds those that were read
  induction fs generalizing es with
  | nil => simp
  | cons e fs ih =>
    obtain ⟨key, v⟩ := e
    rw [List.forall_mem_cons] at hfs
    rw [List.append_cons] at hnodup
    -- the key of this line is not yet in the draft
    have hkey : key ∉ es.map Prod.fst := by
      rw [List.map_append, List.map_append, List.nodup_append] at hnodup
      have hfirst := (List.nodup_append.mp hnodup.1).2.2
      exact fun hmem => hfirst key hmem key (by simp) rfl
    obtain ⟨root, hassign, heq⟩ := hdraft es key v hkey
    have hline := readLine?_line hfs.1 hassign (fs.flatMap lineText ++ rest)
    rw [List.flatMap_cons, List.append_assoc, List.length_cons, ← Nat.add_assoc,
      readLines?_step ?_ ?_ hline, heq, ih _ hfs.2 hnodup, List.append_assoc, List.singleton_append]
    · rw [lineText, List.append_assoc]
      exact skipBlanks_writeKey _ _
    · simp [lineText]

end Draft

/-! ### Trees -/

namespace Branch

/-- A table of values. -/
def holding (o : Origin) (fs : Entries) : Branch := mk o (fs.map fun e => (e.1, .value e.2))

/-- A document of values with one table at its end. -/
def withTable (fs : Entries) (key : String) (es : Entries) : Branch :=
  mk .header ((holding .header fs).entries ++ [(key, .table (holding .header es))])

theorem ne_of_notMem {nodes : List (String × Node)} (h : key ∉ nodes.map Prod.fst)
    {e : String × Node} (he : e ∈ nodes) : e.1 ≠ key := fun heq =>
  h (heq ▸ List.mem_map_of_mem he)

theorem find?_eq_none {t : Branch} (h : key ∉ t.entries.map Prod.fst) : t.find? key = none := by
  rw [find?, Option.map_eq_none_iff, List.find?_eq_none]
  intro e he
  simpa using ne_of_notMem h he

theorem keys_holding (o : Origin) (fs : Entries) :
    (holding o fs).entries.map Prod.fst = fs.map Prod.fst := by
  rw [holding, entries, List.map_map]
  rfl

theorem append_holding (o : Origin) (fs : Entries) (key : String) (v : Value) :
    (holding o fs).append key (.value v) = holding o (fs ++ [(key, v)]) := by
  simp [holding, append, origin, entries]

theorem place_holding (h : key ∉ fs.map Prod.fst) (v : Value) :
    (holding .header fs).place [] key (.value v) = some (holding .header (fs ++ [(key, v)])) := by
  have hfind : (holding .header fs).find? key = none := find?_eq_none (by rwa [keys_holding])
  rw [place, alter, hfind, append_holding]
  rfl

theorem assign_holding (h : key ∉ fs.map Prod.fst) (v : Value) :
    (holding .header fs).assign [] [] key v = some (holding .header (fs ++ [(key, v)])) := by
  rw [assign, alter, place_holding h]

theorem openTable_holding (h : key ∉ fs.map Prod.fst) :
    (holding .header fs).openTable [] key = some (withTable fs key []) := by
  have hfind : (holding .header fs).find? key = none := find?_eq_none (by rwa [keys_holding])
  rw [openTable, alter, hfind]
  rfl

theorem assign_withTable {k : String} (hk : k ∉ fs.map Prod.fst) (h : key ∉ es.map Prod.fst)
    (v : Value) :
    (withTable fs k es).assign [k] [] key v = some (withTable fs k (es ++ [(key, v)])) := by
  have hkeys : k ∉ (holding .header fs).entries.map Prod.fst := by rwa [keys_holding]
  have hnone : (holding .header fs).entries.find? (fun e => e.1 = k) = none := by
    rw [List.find?_eq_none]
    intro e he
    simpa using ne_of_notMem hkeys he
  -- the table is behind the values, none of which has its key
  have hfind : (withTable fs k es).find? k = some (.table (holding .header es)) := by
    rw [find?, withTable, entries, List.find?_append, hnone]
    simp
  -- only the entry of the table is replaced
  have hreplace : ∀ n, (withTable fs k es).replace k n =
      mk .header ((holding .header fs).entries ++ [(k, n)]) := by
    intro n
    have hsame : (holding .header fs).entries.map (fun e => if e.1 = k then (k, n) else e) =
        (holding .header fs).entries := by
      refine (List.map_congr_left fun e he => ?_).trans (List.map_id _)
      rw [if_neg (ne_of_notMem hkeys he), id_eq]
    rw [replace, withTable, entries, List.map_append, hsame]
    simp [origin]
  rw [assign, alter, hfind]
  simp only [reduceCtorEq, false_and, if_false, alter, place_holding h, Option.bind_eq_bind,
    Option.bind_some, hreplace]
  rfl

theorem toEntries_holding (o : Origin) (fs : Entries) : (holding o fs).toEntries = fs := by
  rw [holding, toEntries]
  induction fs with
  | nil => rfl
  | cons e fs ih => rw [List.map_cons, entryValues, ih, Node.toValue]

theorem entryValues_append (xs ys : List (String × Node)) :
    entryValues (xs ++ ys) = entryValues xs ++ entryValues ys := by
  induction xs with
  | nil => rfl
  | cons e xs ih => rw [List.cons_append, entryValues, ih, entryValues, List.cons_append]

theorem toEntries_withTable (fs : Entries) (key : String) (es : Entries) :
    (withTable fs key es).toEntries = fs ++ [(key, .table es)] := by
  have hfs := toEntries_holding .header fs
  rw [holding, toEntries] at hfs
  rw [withTable, toEntries, entryValues_append, holding, entries, hfs, entryValues, Node.toValue,
    toEntries_holding]
  rfl

end Branch

/-! ### Documents -/

/-- A value that is written behind its key and reads back from there. -/
def IsFlat (v : Value) : Prop := v.hasBlocks = false ∧ ReadsInline greatestDepth v

theorem IsFlat.string (text : String) : IsFlat (.string text) := ⟨rfl, .string _ text⟩

theorem IsFlat.boolean (b : Bool) : IsFlat (.boolean b) := ⟨rfl, .boolean _ b⟩

theorem IsFlat.natural {n : Nat} (hn : n < twoTo 63) : IsFlat (.integer n) := ⟨rfl, .natural _ hn⟩

theorem IsFlat.strings (texts : List String) : IsFlat (.array (texts.map .string)) := by
  refine ⟨?_, .array fun v hv => ?_⟩
  · cases texts <;> rfl
  · obtain ⟨text, -, rfl⟩ := List.mem_map.mp hv
    exact .string _ text

/-- What stands behind its key brings about no block. -/
theorem valueBlocks_eq_nil (h : v.hasBlocks = false) (path : List String) :
    valueBlocks path v = [] := by
  cases v with
  | table => simp [Value.hasBlocks, Value.isTable] at h
  | array items =>
    simp only [Value.hasBlocks, Bool.or_eq_false_iff] at h
    rw [valueBlocks, h.2, if_neg Bool.false_ne_true]
  | _ => rfl

theorem entryBlocks_eq_nil (h : ∀ e ∈ fs, e.2.hasBlocks = false) (path : List String) :
    entryBlocks path fs = [] := by
  induction fs with
  | nil => rfl
  | cons e fs ih =>
    rw [List.forall_mem_cons] at h
    rw [entryBlocks, valueBlocks_eq_nil h.1, ih h.2]
    rfl

theorem entryBlocks_append (path : List String) (es fs : Entries) :
    entryBlocks path (es ++ fs) = entryBlocks path es ++ entryBlocks path fs := by
  induction es with
  | nil => rfl
  | cons e es ih => rw [List.cons_append, entryBlocks, ih, entryBlocks, List.append_assoc]

theorem toList_valueLines (h : ∀ e ∈ fs, e.2.hasBlocks = false) :
    (String.join (valueLines fs)).toList = fs.flatMap lineText := by
  have hall : fs.filter (fun e => !e.2.hasBlocks) = fs :=
    List.filter_eq_self.mpr fun e he => by rw [h e he]; rfl
  rw [valueLines, hall, String.toList_join, List.flatMap_map]
  refine congrArg (fun f => fs.flatMap f) (funext fun e => ?_)
  simp only [lineText, String.toList_append, List.append_assoc]
  rfl

theorem toList_tableBlock (h : ∀ e ∈ es, e.2.hasBlocks = false) (key : String) :
    (tableBlock [key] es).map String.toList = [headerText key ++ es.flatMap lineText] := by
  have hlines : ((valueLines es).isEmpty && !es.isEmpty) = false := by
    have hall : es.filter (fun e => !e.2.hasBlocks) = es :=
      List.filter_eq_self.mpr fun e he => by rw [h e he]; rfl
    rw [valueLines, hall]
    cases es <;> rfl
  rw [tableBlock, hlines, if_neg Bool.false_ne_true, List.map_singleton, String.toList_append,
    toList_valueLines h]
  simp [headerText, writePath]

/-- The text of a document of values with one table. -/
theorem toList_writeDocument {before after : Entries}
    (hfs : ∀ e ∈ before ++ after, e.2.hasBlocks = false)
    (hes : ∀ e ∈ es, e.2.hasBlocks = false) (hne : before ++ after ≠ []) (key : String) :
    (writeDocument (before ++ (key, .table es) :: after)).toList =
      (before ++ after).flatMap lineText ++ '\n' :: (headerText key ++ es.flatMap lineText) := by
  have hvalues : valueLines (before ++ (key, .table es) :: after) =
      valueLines (before ++ after) := by
    simp [valueLines, Value.hasBlocks, Value.isTable]
  have hblocks : entryBlocks [] (before ++ (key, .table es) :: after) = tableBlock [key] es := by
    rw [List.forall_mem_append] at hfs
    rw [entryBlocks_append, entryBlocks_eq_nil hfs.1, entryBlocks, entryBlocks_eq_nil hfs.2,
      valueBlocks]
    simp [entryBlocks_eq_nil hes]
  -- there is a value, so a blank line stands in front of the header
  have hfront : (String.join (valueLines (before ++ after))).isEmpty = false := by
    obtain ⟨e, rest, heq⟩ := List.exists_cons_of_ne_nil hne
    have htext := toList_valueLines hfs
    rw [Bool.eq_false_iff]
    intro hempty
    rw [String.isEmpty_iff.mp hempty, heq] at htext
    simp [lineText] at htext
  rw [writeDocument, hvalues, hblocks]
  simp only [hfront, Bool.false_eq_true, if_false]
  rw [String.toList_intercalate, List.map_append, toList_tableBlock hes, List.map_singleton,
    toList_valueLines hfs]
  simp [List.intercalate]

theorem length_le_flatMap_lineText (fs : Entries) : fs.length ≤ (fs.flatMap lineText).length := by
  induction fs with
  | nil => exact Nat.le_refl 0
  | cons e fs ih =>
    simp only [List.flatMap_cons, List.length_cons, List.length_append, lineText] at ih ⊢
    omega

/-- A document that starts with a key has no mark of its byte order. -/
theorem skipByteOrderMark_line (e : String × Value) (rest : List Char) :
    skipByteOrderMark (lineText e ++ rest) = lineText e ++ rest := by
  have hhead := head?_writeKey (c := '\uFEFF') (by decide) (by decide) rfl e.1
    (' ' :: '=' :: ' ' :: (e.2.inline.toList ++ ['\n']) ++ rest)
  rw [← List.append_assoc] at hhead
  rw [skipByteOrderMark]
  rintro u heq
  rw [show (writeKey e.1).toList ++ _ ++ rest = _ from heq] at hhead
  exact hhead rfl

/-- First come the values, then the header behind a blank line, and last the table. -/
theorem Draft.readLines?_document (hfs : ∀ e ∈ fs, ReadsInline greatestDepth e.2)
    (hes : ∀ e ∈ es, ReadsInline greatestDepth e.2) (hkeys : (fs.map Prod.fst).Nodup)
    (hkey : key ∉ fs.map Prod.fst) (hinner : (es.map Prod.fst).Nodup) (fuel : Nat) :
    readLines? (fuel + 1 + es.length + 1 + 1 + fs.length) {}
        (fs.flatMap lineText ++ '\n' :: (headerText key ++ es.flatMap lineText)) =
      some { root := .withTable fs key es, header := [key] } := by
  let outside : Entries → Draft := fun fs => { root := .holding .header fs }
  let inside : Entries → Draft := fun es => { root := .withTable fs key es, header := [key] }
  -- the values go into the root of the draft, and the rest into its one table
  have hvalues := readLines?_lines outside []
    (fun es k v hk => ⟨_, Branch.assign_holding hk v, rfl⟩) hfs hkeys
  have htable := readLines?_lines inside []
    (fun es k v hk => ⟨_, Branch.assign_withTable hkey hk v, rfl⟩) hes hinner
  have hheader := readLine?_header (d := outside fs) (Branch.openTable_holding hkey)
    (es.flatMap lineText)
  have hopened := readLines?_step (skipBlanks_cons rfl _) (by simp) hheader (fuel + 1 + es.length)
  have hend : readLines? (fuel + 1) (inside es) [] = some (inside es) := rfl
  have hinside := htable (fuel + 1) []
  rw [List.append_nil] at hinside
  rw [show ({} : Draft) = outside [] from rfl, hvalues,
    readLines?_step rfl (by simp) (readLine?_newline _)]
  exact hopened.trans (hinside.trans hend)

/-- **A document of values and one table reads back**, with the table behind the values. -/
theorem parse?_writeDocument {before after : Entries} (hfs : ∀ e ∈ before ++ after, IsFlat e.2)
    (hes : ∀ e ∈ es, IsFlat e.2) (hne : before ++ after ≠ [])
    (hkeys : ((before ++ after).map Prod.fst).Nodup) (hkey : key ∉ (before ++ after).map Prod.fst)
    (hinner : (es.map Prod.fst).Nodup) :
    parse? (writeDocument (before ++ (key, .table es) :: after)) =
      some (before ++ after ++ [(key, .table es)]) := by
  have htext := toList_writeDocument (fun e he => (hfs e he).1) (fun e he => (hes e he).1) hne key
  have hread := Draft.readLines?_document (fun e he => (hfs e he).2) (fun e he => (hes e he).2)
    hkeys hkey hinner
  -- a document that begins with a key has no byte order mark
  have hmark : skipByteOrderMark ((before ++ after).flatMap lineText ++
      '\n' :: (headerText key ++ es.flatMap lineText)) =
        (before ++ after).flatMap lineText ++ '\n' :: (headerText key ++ es.flatMap lineText) := by
    obtain ⟨e, rest, heq⟩ := List.exists_cons_of_ne_nil hne
    rw [heq, List.flatMap_cons, List.append_assoc]
    exact skipByteOrderMark_line e _
  -- there are at least as many characters as lines
  have hlength := length_le_flatMap_lineText (before ++ after)
  have hlength' := length_le_flatMap_lineText es
  have hroom : es.length + (before ++ after).length + 2 ≤ ((before ++ after).flatMap lineText ++
      '\n' :: (headerText key ++ es.flatMap lineText)).length := by
    simp only [headerText, List.length_append, List.length_cons] at hlength ⊢
    omega
  obtain ⟨fuel, hfuel⟩ := Nat.exists_eq_add_of_le hroom
  rw [show es.length + (before ++ after).length + 2 + fuel =
    fuel + 1 + es.length + 1 + (before ++ after).length by omega] at hfuel
  rw [parse?, htext, hmark, hfuel, Nat.add_right_comm _ _ 1, hread]
  simp [Branch.toEntries_withTable]

end LoadGenerator.Toml
