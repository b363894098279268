/-
Values read back.

A value in one line ends where its place ends: at the end of the line, or at a comma or a bracket of
the array around it. A number has to be told from the date or the time that might begin there.

* **`ReadsInline`** — a value reads back from the place where it was written;
* **`ReadsInline.string`**, **`ReadsInline.natural`**, **`ReadsInline.boolean`** — values without
  parts do;
* **`ReadsInline.array`** — and so does an array of values that do.
-/
import LoadGenerator.Proofs.StringReading
import LoadGenerator.Toml.Reader
import LoadGenerator.Toml.Writer

namespace LoadGenerator.Toml

open LoadGenerator.Text

variable {c d : Char} {s t rest : List Char} {room n : Nat} {v : Value}

/-! ### Where a value stands -/

/-- What may stand behind a value: the end of its line, or of its place in an array. -/
def Closes (rest : List Char) : Prop :=
  rest.head? = some '\n' ∨ rest.head? = some ',' ∨ rest.head? = some ']'

/-- A character with which a value may start: no filler, and not the end of an array. -/
def isStart (c : Char) : Bool := !isLineBlank c && c ≠ '\n' && c ≠ '\r' && c ≠ '#' && c ≠ ']'

/-- A value reads back from wherever it was written within a line. -/
structure ReadsInline (room : Nat) (v : Value) : Prop where
  starts : ∃ c t, v.inline.toList = c :: t ∧ isStart c = true
  reads : ∀ rest, Closes rest → readValue? room (v.inline.toList ++ rest) = some (v, rest)

/-- None but three characters come behind a value. -/
theorem Closes.ne (h : Closes rest) (hbreak : c ≠ '\n') (hcomma : c ≠ ',') (hbracket : c ≠ ']') :
    rest.head? ≠ some c := by
  rcases h with h | h | h <;> rw [h] <;> simp [Ne.symm, *]

theorem readValue?_of_scalar (harray : s.head? ≠ some '[') (htable : s.head? ≠ some '{')
    (room : Nat) : readValue? room s = readScalar? s := by
  cases room with
  | zero => rfl
  | succ room =>
    unfold readValue?
    split
    · simp at harray
    · simp at htable
    · rfl

/-! ### Strings and truth values -/

theorem exists_writeString (text : String) :
    ∃ c t, (writeString text).toList = c :: t ∧ (c = '"' ∨ c = '\'') := by
  rw [writeString, toList_writeStyled]
  cases StringStyle.choose text.toList
  · exact ⟨_, _, rfl, .inl rfl⟩
  · exact ⟨_, _, rfl, .inr rfl⟩
  · exact ⟨_, _, rfl, .inl rfl⟩
  · exact ⟨_, _, rfl, .inr rfl⟩

theorem ReadsInline.string (room : Nat) (text : String) : ReadsInline room (.string text) where
  starts := by
    obtain ⟨c, t, htext, hc⟩ := exists_writeString text
    refine ⟨c, t, by rw [Value.inline, htext], ?_⟩
    rcases hc with rfl | rfl <;> decide
  reads := by
    intro rest hrest
    have hread := readString?_writeString (hrest.ne (by decide) (by decide) (by decide))
      (hrest.ne (by decide) (by decide) (by decide)) text
    -- the first character is a quotation mark, so the reader takes the value for a string
    obtain ⟨c, t, htext, hc⟩ := exists_writeString text
    rw [htext] at hread
    rw [Value.inline, htext]
    rcases hc with rfl | rfl
    · rw [readValue?_of_scalar (by simp) (by simp), List.cons_append, readScalar?,
        ← List.cons_append, hread]
      rfl
    · rw [readValue?_of_scalar (by simp) (by simp), List.cons_append, readScalar?,
        ← List.cons_append, hread]
      rfl

theorem ReadsInline.boolean (room : Nat) (b : Bool) : ReadsInline room (.boolean b) where
  starts := by
    cases b
    · exact ⟨'f', ['a', 'l', 's', 'e'], rfl, rfl⟩
    · exact ⟨'t', ['r', 'u', 'e'], rfl, rfl⟩
  reads := by
    intro rest _
    cases b
    · exact readValue?_of_scalar (s := 'f' :: 'a' :: 'l' :: 's' :: 'e' :: rest) (by simp)
        (by simp) room
    · exact readValue?_of_scalar (s := 't' :: 'r' :: 'u' :: 'e' :: rest) (by simp) (by simp) room

/-! ### Numbers -/

/-- The value of a decimal digit. -/
def valueOf (c : Char) : Nat := c.toNat - '0'.toNat

theorem digitValue?_of_isDigit (h : c.isDigit = true) : digitValue? 10 c = some (valueOf c) := by
  simp only [Char.isDigit, Bool.and_eq_true, decide_eq_true_eq, ge_iff_le] at h
  have hrange : '0' ≤ c ∧ c ≤ '9' := h
  have hlt : valueOf c < 10 := by
    have := char_le_iff.mp hrange.2
    simp only [valueOf, Char.reduceToNat] at *
    omega
  simp [digitValue?, hrange, Option.filter, valueOf] at *
  omega

theorem digitValue?_eq_none (h : c = '\n' ∨ c = ',' ∨ c = ']') : digitValue? 10 c = none := by
  rcases h with rfl | rfl | rfl <;> decide

/-- Digits that are read one by one leave digits behind. -/
theorem exists_digits_of_readFixed {ds : List Char} {k m : Nat} (hds : ∀ c ∈ ds, c.isDigit = true)
    (hrest : Closes rest) (h : readFixed k n (ds ++ rest) = some (m, t)) :
    ∃ ds', (∀ c ∈ ds', c.isDigit = true) ∧ t = ds' ++ rest := by
  induction k generalizing n ds with
  | zero =>
    rw [readFixed] at h
    obtain ⟨-, rfl⟩ := Prod.mk.inj (Option.some.inj h)
    exact ⟨ds, hds, rfl⟩
  | succ k ih =>
    cases ds with
    | nil =>
      -- no digit closes a value
      exfalso
      cases rest with
      | nil => cases h
      | cons c rest =>
        have hc : digitValue? 10 c = none := digitValue?_eq_none (by simpa [Closes] using hrest)
        simp [readFixed, hc] at h
    | cons c ds =>
      rw [List.forall_mem_cons] at hds
      rw [List.cons_append, readFixed, digitValue?_of_isDigit hds.1] at h
      exact ih hds.2 h

/-- A text that goes on with digits starts with none of the other characters. -/
theorem head?_digits_append {ds : List Char} (hds : ∀ c ∈ ds, c.isDigit = true)
    (hc : c.isDigit = false) (hrest : rest.head? ≠ some c) : (ds ++ rest).head? ≠ some c := by
  cases ds with
  | nil => exact hrest
  | cons d ds =>
    intro heq
    have hd := hds d List.mem_cons_self
    rw [show d = c from Option.some.inj heq, hc] at hd
    cases hd

theorem behind_eq_none (h : s.head? ≠ some c) : behind c s = none := by
  cases s with
  | nil => rfl
  | cons d s =>
    have hne : c ≠ d := fun heq => h (heq ▸ rfl)
    simp [behind, hne]

/-- A row of digits is neither a date nor a time of day. -/
theorem read_digits {ds : List Char} (hds : ∀ c ∈ ds, c.isDigit = true) (hrest : Closes rest) :
    DateTime.read (ds ++ rest) = none := by
  -- after its digits neither a hyphen nor a colon can follow
  have hdate : Date.read (ds ++ rest) = none := by
    unfold Date.read
    cases h : readFixed 4 0 (ds ++ rest) with
    | none => rfl
    | some r =>
      obtain ⟨ds', hds', ht⟩ := exists_digits_of_readFixed hds hrest h
      have hhead := head?_digits_append (c := '-') hds' rfl
        (hrest.ne (by decide) (by decide) (by decide))
      have hnone := behind_eq_none hhead
      simp [ht, hnone]
  have htime : Time.read (ds ++ rest) = none := by
    unfold Time.read
    cases h : readFixed 2 0 (ds ++ rest) with
    | none => rfl
    | some r =>
      obtain ⟨ds', hds', ht⟩ := exists_digits_of_readFixed hds hrest h
      have hhead := head?_digits_append (c := ':') hds' rfl
        (hrest.ne (by decide) (by decide) (by decide))
      have hnone := behind_eq_none hhead
      simp [ht, hnone]
  simp [DateTime.read, hdate, htime]

/-- A row of digits is read as far as it goes. -/
theorem readSpacedDigits_digits {ds : List Char} (hne : ds ≠ []) (hds : ∀ c ∈ ds, c.isDigit = true)
    (hrest : Closes rest) : readSpacedDigits 10 (ds ++ rest) = some (ds.map valueOf, rest) := by
  induction ds with
  | nil => exact absurd rfl hne
  | cons c ds ih =>
    rw [List.forall_mem_cons] at hds
    cases ds with
    | nil =>
      cases rest with
      | nil => simp [readSpacedDigits, digitValue?_of_isDigit hds.1]
      | cons d rest =>
        have hd : digitValue? 10 d = none := digitValue?_eq_none (by simpa [Closes] using hrest)
        -- the equation of the last case asks for this
        have hspace : d ≠ '_' := by
          rintro rfl
          simp [Closes] at hrest
        simp [readSpacedDigits, digitValue?_of_isDigit hds.1, hd]
    | cons d ds =>
      have hd := digitValue?_of_isDigit (hds.2 d List.mem_cons_self)
      have hspace : d ≠ '_' := by
        rintro rfl
        cases hd
      have hread := ih (by simp) hds.2
      simp only [List.cons_append] at hread ⊢
      simp [readSpacedDigits, digitValue?_of_isDigit hds.1, hd, hread]

theorem isDigit_toDigits (n : Nat) : ∀ c ∈ Nat.toDigits 10 n, c.isDigit = true := fun _ hc =>
  Nat.isDigit_of_mem_toDigits (by decide) (by decide) hc

/-- Only the number zero starts with a zero. -/
theorem head?_toDigits (hn : n ≠ 0) : (Nat.toDigits 10 n).head? ≠ some '0' := by
  induction n using Nat.strongRecOn with
  | _ n ih =>
    rw [Nat.toDigits_eq_if (by decide)]
    split
    · next hlt => simpa using hn
    · next hle =>
      have hfront := ih (n / 10) (by omega) (by omega)
      obtain ⟨c, t, htext⟩ :=
        List.exists_cons_of_ne_nil (Nat.toDigits_ne_nil (n := n / 10) (b := 10))
      rwa [htext] at hfront ⊢

theorem ofDigits_toDigits (n : Nat) : ofDigits 10 ((Nat.toDigits 10 n).map valueOf) = n := by
  have hchars := Nat.ofDigitChars_ten_toDigits (n := n)
  rw [Nat.ofDigitChars_eq_foldl] at hchars
  rw [ofDigits, List.foldl_map]
  simpa only [valueOf, Nat.mul_comm] using hchars

theorem readPlainDigits_toDigits (hrest : Closes rest) :
    readPlainDigits (Nat.toDigits 10 n ++ rest) =
      some ((Nat.toDigits 10 n).map valueOf, rest) := by
  by_cases hn : n = 0
  · subst hn
    rfl
  · have hread := readSpacedDigits_digits Nat.toDigits_ne_nil (isDigit_toDigits n) hrest
    have hhead := head?_toDigits hn
    obtain ⟨c, t, htext⟩ := List.exists_cons_of_ne_nil (Nat.toDigits_ne_nil (n := n) (b := 10))
    rw [htext] at hread hhead ⊢
    rw [List.cons_append] at hread ⊢
    rw [readPlainDigits, hread]
    intro _ heq
    simp [(List.cons.inj heq).1] at hhead

theorem readFraction_of_closes (hrest : Closes rest) : readFraction rest = some ([], rest) := by
  unfold readFraction
  split
  · simp [Closes] at hrest
  · rfl

theorem readExponent_of_closes (hrest : Closes rest) : readExponent rest = some (0, rest) := by
  unfold readExponent
  split
  · next c s =>
    have hc : ¬(c = 'e' ∨ c = 'E') := by
      rintro (rfl | rfl) <;> simp [Closes] at hrest
    rw [if_neg hc]
  · rfl

theorem readDecimal_toDigits (hn : n < twoTo 63) (hrest : Closes rest) :
    readDecimal false (Nat.toDigits 10 n ++ rest) = some (.integer n, rest) := by
  have hwhole : wholeNumber? false n = some (.integer n) := by
    have hrange : -(twoTo 63 : Int) ≤ (n : Int) ∧ (n : Int) < twoTo 63 := by omega
    simp [wholeNumber?, hrange]
  simp [readDecimal, readPlainDigits_toDigits hrest, readFraction_of_closes hrest,
    readExponent_of_closes hrest, ofDigits_toDigits, hwhole]

/-- A row of digits carries neither the mark of another base nor a sign. -/
theorem readNumber?_toDigits (hn : n < twoTo 63) (hrest : Closes rest) :
    readNumber? (Nat.toDigits 10 n ++ rest) = some (.integer n, rest) := by
  have hdate := read_digits (isDigit_toDigits n) hrest
  have hdecimal := readDecimal_toDigits hn hrest
  have hdigits := isDigit_toDigits n
  obtain ⟨c, t, htext⟩ := List.exists_cons_of_ne_nil (Nat.toDigits_ne_nil (n := n) (b := 10))
  rw [htext, List.forall_mem_cons] at hdigits
  rw [htext, List.cons_append] at hdate hdecimal ⊢
  -- the second character is a digit or closes the value; it is the mark of no base
  have hsecond : ∀ d : Char, d.isDigit = false → rest.head? ≠ some d → ∀ u, t ++ rest ≠ d :: u :=
    fun d hd hhead u heq => head?_digits_append hdigits.2 hd hhead (by rw [heq]; rfl)
  have hfirst : ∀ d : Char, d.isDigit = false → c ≠ d := by
    rintro d hd rfl
    rw [hdigits.1] at hd
    cases hd
  have hsign : readSign (c :: (t ++ rest)) = (false, c :: (t ++ rest)) := by
    rw [readSign]
    · exact fun _ heq => hfirst '-' rfl (List.cons.inj heq).1
    · exact fun _ heq => hfirst '+' rfl (List.cons.inj heq).1
  unfold readNumber?
  rw [hdate]
  simp only
  split
  · next heq =>
    have hclosed := hrest.ne (c := 'x') (by decide) (by decide) (by decide)
    exact absurd (List.cons.inj heq).2 (hsecond 'x' rfl hclosed _)
  · next heq =>
    have hclosed := hrest.ne (c := 'o') (by decide) (by decide) (by decide)
    exact absurd (List.cons.inj heq).2 (hsecond 'o' rfl hclosed _)
  · next heq =>
    have hclosed := hrest.ne (c := 'b') (by decide) (by decide) (by decide)
    exact absurd (List.cons.inj heq).2 (hsecond 'b' rfl hclosed _)
  · rw [hsign]
    simp only
    split
    · next heq => exact absurd (List.cons.inj heq).1 (hfirst 'i' rfl)
    · next heq => exact absurd (List.cons.inj heq).1 (hfirst 'n' rfl)
    · exact hdecimal

theorem isStart_of_isDigit (h : c.isDigit = true) : isStart c = true := by
  simp only [Char.isDigit, Bool.and_eq_true, decide_eq_true_eq, ge_iff_le] at h
  have hrange : '0'.toNat ≤ c.toNat ∧ c.toNat ≤ '9'.toNat := h
  simp only [Char.reduceToNat] at hrange
  simp only [isStart, isLineBlank, ne_eq, char_eq_iff, Bool.and_eq_true, Bool.not_eq_true',
    Bool.or_eq_false_iff, decide_eq_false_iff_not, decide_eq_true_eq, Char.reduceToNat]
  omega

theorem ReadsInline.natural (room : Nat) (hn : n < twoTo 63) : ReadsInline room (.integer n) where
  starts := by
    obtain ⟨c, t, htext⟩ := List.exists_cons_of_ne_nil (Nat.toDigits_ne_nil (n := n) (b := 10))
    refine ⟨c, t, (Nat.toList_repr (n := n)).trans htext, ?_⟩
    exact isStart_of_isDigit (isDigit_toDigits n c (htext ▸ List.mem_cons_self))
  reads := by
    intro rest hrest
    have hread := readNumber?_toDigits hn hrest
    obtain ⟨c, t, htext⟩ := List.exists_cons_of_ne_nil (Nat.toDigits_ne_nil (n := n) (b := 10))
    have hc := isDigit_toDigits n c (htext ▸ List.mem_cons_self)
    have hfirst : ∀ d : Char, d.isDigit = false → c ≠ d := by
      rintro d hd rfl
      rw [hc] at hd
      cases hd
    rw [show (Value.integer n).inline.toList = _ from Nat.toList_repr (n := n)]
    rw [htext, List.cons_append] at hread ⊢
    rw [readValue?_of_scalar (by simpa using hfirst '[' rfl) (by simpa using hfirst '{' rfl),
      readScalar?, hread]
    all_goals
      intro u heq
      exact hfirst _ rfl (List.cons.inj heq).1

/-! ### Arrays -/

theorem skipFiller_cons (hblank : isLineBlank c = false) (hbreak : c ≠ '\n') (hreturn : c ≠ '\r')
    (hcomment : c ≠ '#') (s : List Char) : skipFiller false (c :: s) = c :: s := by
  unfold skipFiller
  simp [hblank, hbreak, hreturn, hcomment]

theorem skipFiller_start (h : isStart c = true) (s : List Char) :
    skipFiller false (c :: s) = c :: s := by
  simp only [isStart, Bool.and_eq_true, Bool.not_eq_true', decide_eq_true_eq, ne_eq] at h
  obtain ⟨⟨⟨⟨hblank, hbreak⟩, hreturn⟩, hcomment⟩, -⟩ := h
  exact skipFiller_cons hblank hbreak hreturn hcomment s

theorem inlineItems_eq_map (items : List Value) :
    Value.inlineItems items = items.map Value.inline := by
  induction items with
  | nil => rfl
  | cons v items ih => rw [Value.inlineItems, ih, List.map_cons]

/-- The items of an array with the commas between them. -/
def itemsText (items : List Value) : List Char :=
  [',', ' '].intercalate (items.map fun v => v.inline.toList)

theorem toList_inline_array (items : List Value) :
    (Value.array items).inline.toList = '[' :: (itemsText items ++ [']']) := by
  rw [Value.inline, inlineItems_eq_map, String.toList_append, String.toList_append,
    String.toList_intercalate, List.map_map]
  rfl

theorem itemsText_cons_cons (v w : Value) (items : List Value) :
    itemsText (v :: w :: items) = v.inline.toList ++ ',' :: ' ' :: itemsText (w :: items) := by
  simp [itemsText, List.intercalate]

theorem itemsText_singleton (v : Value) : itemsText [v] = v.inline.toList := by
  simp [itemsText, List.intercalate]

/-- A blank in front of a value is passed over. -/
theorem skipFiller_blank (h : isStart c = true) (s : List Char) :
    skipFiller false (' ' :: c :: s) = c :: s := by
  rw [skipFiller]
  · simp [isLineBlank, skipFiller_start h]
  · rintro u ⟨rfl⟩
    cases h

theorem exists_itemsText {items : List Value} (h : ∀ v ∈ items, ReadsInline room v)
    (hne : items ≠ []) :
    ∃ c t, itemsText items = c :: t ∧ isStart c = true := by
  obtain ⟨v, items, rfl⟩ := List.exists_cons_of_ne_nil hne
  obtain ⟨c, t, htext, hc⟩ := (h v List.mem_cons_self).starts
  cases items with
  | nil => exact ⟨c, t, by rw [itemsText_singleton, htext], hc⟩
  | cons w items => exact ⟨c, _, by rw [itemsText_cons_cons, htext, List.cons_append], hc⟩

/-- The items of an array read back, one after the other. -/
theorem readItems_itemsText {items : List Value} (h : ∀ v ∈ items, ReadsInline room v)
    (hne : items ≠ []) {fuel : Nat} (hfuel : items.length ≤ fuel)
    (hs : skipFiller false s = itemsText items ++ ']' :: rest) :
    readItems (readValue? room) fuel s = some (items, rest) := by
  induction items generalizing fuel s with
  | nil => exact absurd rfl hne
  | cons v items ih =>
    obtain ⟨fuel, rfl⟩ : ∃ k, fuel = k + 1 :=
      Nat.exists_eq_add_one.mpr (Nat.lt_of_lt_of_le (Nat.succ_pos _) hfuel)
    rw [List.forall_mem_cons] at h
    obtain ⟨c, t, htext, hc⟩ := h.1.starts
    have hbracket : c ≠ ']' := by
      rintro rfl
      cases hc
    unfold readItems
    cases items with
    | nil =>
      -- the last item is closed by the bracket
      have hread := h.1.reads (']' :: rest) (.inr (.inr rfl))
      have hend : skipFiller false (']' :: rest) = ']' :: rest :=
        skipFiller_cons rfl (by decide) (by decide) (by decide) rest
      rw [itemsText_singleton] at hs
      rw [htext, List.cons_append] at hs hread
      simp [hs, hbracket, hread, hend]
    | cons w items =>
      have hread := h.1.reads (',' :: ' ' :: (itemsText (w :: items) ++ ']' :: rest))
        (.inr (.inl rfl))
      have hcomma := skipFiller_start (c := ',') rfl
        (' ' :: (itemsText (w :: items) ++ ']' :: rest))
      -- the blank behind the comma is passed over before the next item
      obtain ⟨d, u, hnext, hd⟩ := exists_itemsText h.2 (by simp)
      have hblank : skipFiller false (' ' :: (itemsText (w :: items) ++ ']' :: rest)) =
          itemsText (w :: items) ++ ']' :: rest := by
        rw [hnext]
        exact skipFiller_blank hd _
      have hrest := ih h.2 (by simp) (Nat.le_of_succ_le_succ hfuel) hblank
      rw [itemsText_cons_cons, List.append_assoc] at hs
      rw [htext, List.cons_append] at hs hread
      simp only [List.cons_append] at hs
      simp [hs, hbracket, hread, hcomma, hrest]

theorem length_le_itemsText {items : List Value} (h : ∀ v ∈ items, ReadsInline room v) :
    items.length ≤ (itemsText items).length := by
  induction items with
  | nil => exact Nat.zero_le _
  | cons v items ih =>
    rw [List.forall_mem_cons] at h
    obtain ⟨c, t, htext, -⟩ := h.1.starts
    cases items with
    | nil => simp [itemsText_singleton, htext]
    | cons w items =>
      have hrest := ih h.2
      simp only [itemsText_cons_cons, htext, List.length_append, List.length_cons] at hrest ⊢
      omega

/-- An array of values that read back reads back. -/
theorem ReadsInline.array {items : List Value} (h : ∀ v ∈ items, ReadsInline room v) :
    ReadsInline (room + 1) (.array items) where
  starts := ⟨'[', _, toList_inline_array items, rfl⟩
  reads := by
    intro rest _
    rw [toList_inline_array, List.cons_append, List.append_assoc, List.singleton_append, readValue?]
    by_cases hne : items = []
    · subst hne
      have hend : skipFiller false (']' :: rest) = ']' :: rest :=
        skipFiller_cons rfl (by decide) (by decide) (by decide) rest
      simp [itemsText, List.intercalate, readItems, hend]
    · obtain ⟨c, t, htext, hc⟩ := exists_itemsText h hne
      -- there are at least as many characters as items, so the fuel is enough
      have hlength := length_le_itemsText h
      have hs : skipFiller false (itemsText items ++ ']' :: rest) =
          itemsText items ++ ']' :: rest := by
        rw [htext]
        exact skipFiller_start hc _
      rw [readItems_itemsText h hne (by simp; omega) hs]
      rfl

end LoadGenerator.Toml
