/-
Strings and keys read back.

A string is written in one of four styles, and each of them has its own dangers: an escape that is
read as something else, quotation marks inside that close the string early, marks at the end that
run into the closing ones, a line break at the front that is dropped. None of them ever comes true.

* **`readBasic_escapeBody`** — the body of a string with escapes, and its closing marks;
* **`readLiteral_body`**, **`readLiteral_lines`** — the body of a string without escapes;
* **`readString?_writeString`** — every string reads back, whatever style was chosen for it;
* **`readKey?_writeKey`** — and so does every key.

All of them hold in front of any text that goes on without another quotation mark.
-/
import LoadGenerator.Toml.StringStyle

namespace LoadGenerator.Toml

open LoadGenerator.Text

variable {c x : Char} {s t rest : List Char} {lines : Bool} {run : Nat}

/-! ### Characters by their code points -/

theorem char_lt_iff {c d : Char} : c < d ↔ c.toNat < d.toNat := Iff.rfl

theorem char_le_iff {c d : Char} : c ≤ d ↔ c.toNat ≤ d.toNat := Iff.rfl

theorem char_eq_iff {c d : Char} : c = d ↔ c.toNat = d.toNat := Char.toNat_inj.symm

/-- What needs no escape stands for itself between double marks. -/
theorem isBasicChar_of_needsEscape (h : needsEscape c = false) (hbreak : c ≠ '\n')
    (hmark : c ≠ '"') (hback : c ≠ '\\') : isBasicChar c = true := by
  simp only [needsEscape, isBasicChar, char_lt_iff, char_le_iff, ne_eq, char_eq_iff,
    Bool.or_eq_false_iff, Bool.and_eq_false_iff, decide_eq_false_iff_not, Bool.or_eq_true,
    Bool.and_eq_true, decide_eq_true_eq, Char.reduceToNat] at *
  omega

/-- And between single marks. -/
theorem isLiteralChar_of_needsEscape (h : needsEscape c = false) (hbreak : c ≠ '\n')
    (hmark : c ≠ '\'') : isLiteralChar c = true := by
  simp only [needsEscape, isLiteralChar, char_lt_iff, char_le_iff, ne_eq, char_eq_iff,
    Bool.or_eq_false_iff, Bool.and_eq_false_iff, decide_eq_false_iff_not, Bool.or_eq_true,
    Bool.and_eq_true, decide_eq_true_eq, Char.reduceToNat] at *
  omega

theorem toNat_lt_of_needsEscape (h : needsEscape c = true) : c.toNat < 128 := by
  simp only [needsEscape, char_lt_iff, ne_eq, char_eq_iff, Bool.or_eq_true, Bool.and_eq_true,
    decide_eq_true_eq, Char.reduceToNat] at h
  omega

/-- The four digits of a control character give the character. -/
theorem codePoint?_control : ∀ n : Fin 128,
    let digits := List.replicate (4 - (Nat.toDigits 16 n.val).length) '0' ++ Nat.toDigits 16 n.val
    codePoint? (digits.map Char.toUpper) = some (Char.ofNat n) ∧ digits.length = 4 := by
  decide +kernel

/-- An escaped control is four digits that stand for it. -/
theorem exists_codePoint (h : c.toNat < 128) : ∃ a b d e,
    (toHex c.toNat 4).toList.map Char.toUpper = [a, b, d, e] ∧
      codePoint? [a, b, d, e] = some c := by
  obtain ⟨hcode, hlength⟩ := codePoint?_control ⟨c.toNat, h⟩
  rw [Char.ofNat_toNat] at hcode
  rw [toHex, String.toList_ofList]
  -- there are four of them
  rcases hdigits : List.replicate (4 - (Nat.toDigits 16 c.toNat).length) '0' ++
    Nat.toDigits 16 c.toNat with _ | ⟨a, _ | ⟨b, _ | ⟨d, _ | ⟨e, _ | ⟨_, _⟩⟩⟩⟩⟩ <;>
    simp only [hdigits] at hcode hlength <;> try (simp at hlength; done)
  exact ⟨_, _, _, _, rfl, hcode⟩

/-! ### One character between double marks -/

theorem readBasic_plain (h : isBasicChar c = true) :
    readBasic lines .text (c :: s) = readBasic.cons c (readBasic lines .text s) := by
  have hmark : c ≠ '"' := by rintro rfl; revert h; decide
  have hback : c ≠ '\\' := by rintro rfl; revert h; decide
  have hreturn : c ≠ '\r' := by rintro rfl; revert h; decide
  rw [readBasic]
  all_goals simp_all

theorem readBasic_break :
    readBasic true .text ('\n' :: s) = readBasic.cons '\n' (readBasic true .text s) := rfl

theorem readBasic_short (h : shortEscape? c = some x) :
    readBasic lines .text ('\\' :: c :: s) = readBasic.cons x (readBasic lines .text s) := by
  unfold shortEscape? at h
  split at h
  all_goals
    cases h
    try rfl

theorem readBasic_code {a b d e : Char} (h : codePoint? [a, b, d, e] = some x) :
    readBasic lines .text ('\\' :: 'u' :: a :: b :: d :: e :: s) =
      readBasic.cons x (readBasic lines .text s) := by
  -- up to the code point the text is read by computation
  conv => lhs; whnf
  rw [h]

/-- Over several lines a mark ends the string if two others come behind it. -/
theorem readBasic_quote :
    readBasic true .text ('"' :: s) =
      match s with
      | '"' :: '"' :: '"' :: '"' :: rest => some (['"', '"'], rest)
      | '"' :: '"' :: '"' :: rest => some (['"'], rest)
      | '"' :: '"' :: rest => some ([], rest)
      | _ => readBasic.cons '"' (readBasic true .text s) := rfl

theorem readBasic_mark (h : ¬['"', '"'] <+: s) :
    readBasic true .text ('"' :: s) = readBasic.cons '"' (readBasic true .text s) := by
  rw [readBasic_quote]
  split
  · exact absurd (by simp) h
  · exact absurd (by simp) h
  · exact absurd (by simp) h
  · rfl

/-- What stands for a character other than a mark reads back as this character. -/
theorem readBasic_escapeChar (h : c ≠ '"') :
    readBasic lines .text (escapeChar lines c ++ s) =
      readBasic.cons c (readBasic lines .text s) := by
  unfold escapeChar
  -- one case for each of the short escapes, and then the code points
  split
  · next hc =>
    subst hc
    exact readBasic_short rfl
  split
  · next hc =>
    subst hc
    exact readBasic_short rfl
  split
  · next hc =>
    subst hc
    cases lines
    · exact readBasic_short rfl
    · exact readBasic_break
  split
  · next hc =>
    subst hc
    exact readBasic_short rfl
  split
  · next hc =>
    subst hc
    exact readBasic_short rfl
  split
  · next hc =>
    subst hc
    exact readBasic_short rfl
  split
  · next hc =>
    obtain ⟨a, b, d, e, hdigits, hcode⟩ := exists_codePoint (toNat_lt_of_needsEscape hc)
    rw [hdigits]
    exact readBasic_code hcode
  · next hbreak _ _ hback hc =>
    rw [Bool.not_eq_true] at hc
    exact readBasic_plain (isBasicChar_of_needsEscape hc hbreak h hback)

/-! ### Bodies with escapes -/

/-- The marks that close a string with escapes. -/
def basicMarks (lines : Bool) : List Char := if lines then ['"', '"', '"'] else ['"']

theorem readBasic_close (h : rest.head? ≠ some '"') :
    readBasic lines .text (basicMarks lines ++ rest) = some ([], rest) := by
  cases lines with
  | false => rfl
  | true =>
    rw [basicMarks, if_pos rfl, List.cons_append, List.cons_append, List.singleton_append,
      readBasic_quote]
    split <;> simp_all

/-- One mark in front of the closing ones belongs to the string. -/
theorem readBasic_close_one (h : rest.head? ≠ some '"') :
    readBasic true .text ('"' :: (basicMarks true ++ rest)) = some (['"'], rest) := by
  rw [basicMarks, if_pos rfl, List.cons_append, List.cons_append, List.singleton_append,
    readBasic_quote]
  split
  all_goals try simp_all
  next hno heq => exact hno _ heq.symm

theorem readBasic_close_two :
    readBasic true .text ('"' :: '"' :: (basicMarks true ++ rest)) = some (['"', '"'], rest) := rfl

theorem escapeBody_cons (h : c ≠ '"') :
    escapeBody lines run (c :: s) = escapeChar lines c ++ escapeBody lines 0 s := by
  rw [escapeBody]
  simpa using h

theorem escapeBody_mark :
    escapeBody lines run ('"' :: s) =
      if lines && run < 2 then '"' :: escapeBody lines (run + 1) s
      else '\\' :: '"' :: escapeBody lines 0 s := by
  rw [escapeBody]

/-- What stands for a character other than a mark does not start with a mark. -/
theorem head?_escapeChar (h : c ≠ '"') (s : List Char) :
    (escapeChar lines c ++ s).head? ≠ some '"' := by
  unfold escapeChar
  repeat' split
  all_goals simp [h]

theorem head?_of_marks (h : c :: t <+: s) : s.head? = some c := by
  obtain ⟨u, rfl⟩ := h
  rfl

/-- Two marks in a row come in front of the end only, or of one mark and the end. -/
theorem eq_of_two_marks (h : ['"', '"'] <+: escapeBody true (run + 1) s ++ rest) :
    s = [] ∨ s = ['"'] ∧ run = 0 := by
  cases s with
  | nil => exact .inl rfl
  | cons c s =>
    by_cases hc : c = '"'
    · subst hc
      rw [escapeBody_mark] at h
      split at h
      · next hrun =>
        simp only [Bool.true_and, decide_eq_true_eq] at hrun
        obtain rfl : run = 0 := by omega
        rw [List.cons_append, List.cons_prefix_cons] at h
        have hhead := head?_of_marks h.2
        -- a third mark is escaped, and what stands for another character is no mark
        cases s with
        | nil => exact .inr ⟨rfl, rfl⟩
        | cons d s =>
          exfalso
          by_cases hd : d = '"'
          · subst hd
            simp [escapeBody_mark] at hhead
          · rw [escapeBody_cons hd, List.append_assoc] at hhead
            exact head?_escapeChar hd _ hhead
      · simp at h
    · rw [escapeBody_cons hc, List.append_assoc] at h
      exact absurd (head?_of_marks h) (head?_escapeChar hc _)

/-- **A body with escapes reads back**, whatever number of marks stands in front of it. -/
theorem readBasic_escapeBody (h : rest.head? ≠ some '"') (run : Nat) (s : List Char) :
    readBasic lines .text (escapeBody lines run s ++ (basicMarks lines ++ rest)) =
      some (s, rest) := by
  -- induction on the body, for any number of marks in front of it
  induction s generalizing run with
  | nil => exact readBasic_close h
  | cons c s ih =>
    by_cases hc : c = '"'
    · subst hc
      rw [escapeBody_mark]
      split
      · next hrun =>
        obtain ⟨rfl, -⟩ : lines = true ∧ _ := by simpa using hrun
        rw [List.cons_append]
        -- a mark that is not escaped must not be taken for the first of three
        by_cases hmarks : ['"', '"'] <+: escapeBody true (run + 1) s ++ (basicMarks true ++ rest)
        · rcases eq_of_two_marks hmarks with rfl | ⟨rfl, rfl⟩
          · exact readBasic_close_one h
          · exact readBasic_close_two
        · rw [readBasic_mark hmarks, ih]
          rfl
      · rw [List.cons_append, List.cons_append, readBasic_short (x := '"') rfl, ih]
        rfl
    · rw [escapeBody_cons hc, List.append_assoc, readBasic_escapeChar hc, ih]
      rfl

/-! ### Bodies without escapes -/

theorem readLiteral_plain (h : isLiteralChar c = true) :
    readLiteral lines (c :: s) = readBasic.cons c (readLiteral lines s) := by
  have hmark : c ≠ '\'' := by rintro rfl; revert h; decide
  have hreturn : c ≠ '\r' := by rintro rfl; revert h; decide
  rw [readLiteral]
  all_goals simp_all

theorem readLiteral_break :
    readLiteral true ('\n' :: s) = readBasic.cons '\n' (readLiteral true s) := rfl

theorem readLiteral_quote :
    readLiteral true ('\'' :: s) =
      match s with
      | '\'' :: '\'' :: '\'' :: '\'' :: rest => some (['\'', '\''], rest)
      | '\'' :: '\'' :: '\'' :: rest => some (['\''], rest)
      | '\'' :: '\'' :: rest => some ([], rest)
      | _ => readBasic.cons '\'' (readLiteral true s) := rfl

theorem readLiteral_mark (h : ¬['\'', '\''] <+: s) :
    readLiteral true ('\'' :: s) = readBasic.cons '\'' (readLiteral true s) := by
  rw [readLiteral_quote]
  split
  · exact absurd (by simp) h
  · exact absurd (by simp) h
  · exact absurd (by simp) h
  · rfl

/-- A body within one line reads back. -/
theorem readLiteral_body (h : ∀ c ∈ s, isLiteralChar c = true) :
    readLiteral false (s ++ '\'' :: rest) = some (s, rest) := by
  induction s with
  | nil => rfl
  | cons c s ih =>
    rw [List.forall_mem_cons] at h
    rw [List.cons_append, readLiteral_plain h.1, ih h.2]
    rfl

theorem readLiteral_close (h : rest.head? ≠ some '\'') :
    readLiteral true ('\'' :: '\'' :: '\'' :: rest) = some ([], rest) := by
  rw [readLiteral_quote]
  split <;> simp_all

theorem readLiteral_close_one (h : rest.head? ≠ some '\'') :
    readLiteral true ('\'' :: '\'' :: '\'' :: '\'' :: rest) = some (['\''], rest) := by
  rw [readLiteral_quote]
  split
  all_goals try simp_all
  next hno heq => exact hno _ heq.symm

theorem readLiteral_close_two :
    readLiteral true ('\'' :: '\'' :: '\'' :: '\'' :: '\'' :: rest) =
      some (['\'', '\''], rest) := rfl

/-- A run is at least as long as what stands in front of it. -/
theorem le_longestRun (c : Char) (run : Nat) (s : List Char) : run ≤ longestRun c run s := by
  induction s generalizing run with
  | nil => exact Nat.le_refl run
  | cons d s ih =>
    rw [longestRun]
    split
    · exact Nat.le_of_succ_le (ih (run + 1))
    · exact Nat.le_max_left _ _

theorem longestRun_mark : longestRun c run (c :: s) = longestRun c (run + 1) s := by
  simp [longestRun]

theorem longestRun_of_ne (h : c ≠ x) : longestRun x run (c :: s) = max run (longestRun x 0 s) := by
  rw [longestRun, if_neg h]

theorem longestRun_replicate (c : Char) (run n : Nat) :
    longestRun c run (List.replicate n c) = run + n := by
  induction n generalizing run with
  | zero => rfl
  | succ n ih => rw [List.replicate_succ, longestRun_mark, ih, Nat.succ_add_eq_add_succ]

/-- A run of more double marks than fit into a byte is not counted. -/
theorem not_isCountable_replicate {n : Nat} (h : greatestRun < n) :
    isCountable (List.replicate n '"') = false := by
  simp [isCountable, longestRun_replicate, Nat.not_le.mpr h]

/-- A text without a run of marks has no mark. -/
theorem notMem_of_longestRun (h : longestRun c 0 s = 0) : c ∉ s := by
  induction s with
  | nil => exact List.not_mem_nil
  | cons d s ih =>
    by_cases hd : d = c
    · subst hd
      have hle := le_longestRun d (0 + 1) s
      rw [longestRun_mark] at h
      omega
    · rw [longestRun_of_ne hd] at h
      rw [List.mem_cons, not_or]
      exact ⟨Ne.symm hd, ih (by omega)⟩

/-- Two marks in a row are followed by no third one, when runs are short. -/
theorem eq_of_two_single_marks (hrun : longestRun '\'' (run + 1) s ≤ 2)
    (h : ['\'', '\''] <+: s ++ '\'' :: '\'' :: '\'' :: rest) :
    s = [] ∨ s = ['\''] ∧ run = 0 := by
  cases s with
  | nil => exact .inl rfl
  | cons c s =>
    rw [List.cons_append, List.cons_prefix_cons] at h
    obtain ⟨rfl, h⟩ := h
    rw [longestRun_mark] at hrun
    have hle := le_longestRun '\'' (run + 1 + 1) s
    obtain rfl : run = 0 := by omega
    cases s with
    | nil => exact .inr ⟨rfl, rfl⟩
    | cons d s =>
      -- a second mark behind the first makes a run of three
      rw [List.cons_append, List.cons_prefix_cons] at h
      obtain ⟨rfl, -⟩ := h
      rw [longestRun_mark] at hrun
      have hle := le_longestRun '\'' (0 + 1 + 1 + 1) s
      omega

/-- A body over several lines reads back, when no more than two marks stand in a row. -/
theorem readLiteral_lines (hrest : rest.head? ≠ some '\'') (hrun : longestRun '\'' run s ≤ 2)
    (h : ∀ c ∈ s, c = '\'' ∨ c = '\n' ∨ isLiteralChar c = true) :
    readLiteral true (s ++ '\'' :: '\'' :: '\'' :: rest) = some (s, rest) := by
  induction s generalizing run with
  | nil => exact readLiteral_close hrest
  | cons c s ih =>
    rw [List.forall_mem_cons] at h
    rw [List.cons_append]
    by_cases hc : c = '\''
    · subst hc
      rw [longestRun_mark] at hrun
      by_cases hmarks : ['\'', '\''] <+: s ++ '\'' :: '\'' :: '\'' :: rest
      · rcases eq_of_two_single_marks hrun hmarks with rfl | ⟨rfl, rfl⟩
        · exact readLiteral_close_one hrest
        · exact readLiteral_close_two
      · rw [readLiteral_mark hmarks, ih hrun h.2]
        rfl
    · rw [longestRun_of_ne hc] at hrun
      have hshort : longestRun '\'' 0 s ≤ 2 := Nat.le_trans (Nat.le_max_right _ _) hrun
      rcases h.1 with rfl | rfl | hplain
      · exact absurd rfl hc
      · rw [readLiteral_break, ih hshort h.2]
        rfl
      · rw [readLiteral_plain hplain, ih hshort h.2]
        rfl

/-! ### Styles -/

/-- The style that is chosen fits the text. -/
theorem choose_cases (s : List Char) :
    StringStyle.choose s = .basic ∨ StringStyle.choose s = .basicLines ∨
      (StringStyle.choose s = .literal ∧ '\'' ∉ s ∧ '\n' ∉ s ∧ ∀ c ∈ s, needsEscape c = false) ∨
      (StringStyle.choose s = .literalLines ∧ longestRun '\'' 0 s ≤ 2 ∧
        ∀ c ∈ s, needsEscape c = false) := by
  unfold StringStyle.choose
  simp only
  split
  · exact .inl rfl
  split
  · next h =>
    simp only [Bool.and_eq_true, Bool.not_eq_true', List.any_eq_false, Bool.not_eq_true,
      decide_eq_true_eq] at h
    obtain ⟨⟨hescape, hsingle⟩, hbreak⟩ := h
    refine .inr (.inr (.inl ⟨rfl, notMem_of_longestRun hsingle, ?_, hescape⟩))
    simpa using hbreak
  split
  · exact .inr (.inl rfl)
  split
  · next h =>
    simp only [Bool.and_eq_true, Bool.not_eq_true', List.any_eq_false, Bool.not_eq_true,
      decide_eq_true_eq] at h
    exact .inr (.inr (.inr ⟨rfl, h.2, h.1⟩))
  split
  · exact .inr (.inl rfl)
  · exact .inl rfl

theorem toList_writeStyled (style : StringStyle) (s : List Char) :
    (writeStyled style s).toList =
      style.marks.toList ++ (if style.hasLines && s.contains '\n' then ['\n'] else []) ++
        (if style.hasEscapes then escapeBody style.hasLines 0 s else s) ++ style.marks.toList := by
  unfold writeStyled
  simp only [String.toList_append, String.toList_ofList]
  congr 3
  split <;> rfl

theorem toList_writeStyled_basic (s : List Char) :
    (writeStyled .basic s).toList = '"' :: (escapeBody false 0 s ++ basicMarks false) := by
  rw [toList_writeStyled]
  rfl

theorem toList_writeStyled_literal (s : List Char) :
    (writeStyled .literal s).toList = '\'' :: (s ++ ['\'']) := by
  rw [toList_writeStyled]
  rfl

theorem readLineString?_basic (hrest : rest.head? ≠ some '"') (s : List Char) :
    readLineString? ((writeStyled .basic s).toList ++ rest) = some (String.ofList s, rest) := by
  rw [toList_writeStyled_basic, List.cons_append, List.append_assoc, readLineString?,
    readBasic_escapeBody hrest]
  rfl

theorem readLineString?_literal (hs : ∀ c ∈ s, isLiteralChar c = true) :
    readLineString? ((writeStyled .literal s).toList ++ rest) = some (String.ofList s, rest) := by
  rw [toList_writeStyled_literal, List.cons_append, List.append_assoc, List.singleton_append,
    readLineString?, readLiteral_body hs]
  rfl

/-- A string within one line is read as such, unless it seems to open with three marks. -/
theorem readString?_of_line (hd : ¬['"', '"', '"'] <+: s) (hs : ¬['\'', '\'', '\''] <+: s) :
    readString? s = readLineString? s := by
  unfold readString?
  split
  · exact absurd (by simp) hd
  · exact absurd (by simp) hs
  · rfl

theorem newline?_eq_none (hbreak : s.head? ≠ some '\n') (hreturn : s.head? ≠ some '\r') :
    newline? s = none := by
  unfold newline?
  split
  · simp at hbreak
  · simp at hreturn
  · rfl

/-- Without line breaks a body with escapes does not start like a line break. -/
theorem newline?_escapeBody (hs : '\n' ∉ s) (rest : List Char) :
    newline? (escapeBody true 0 s ++ (basicMarks true ++ rest)) = none := by
  cases s with
  | nil => rfl
  | cons c s =>
    rw [List.mem_cons, not_or] at hs
    by_cases hc : c = '"'
    · subst hc
      rfl
    · rw [escapeBody_cons hc, List.append_assoc]
      unfold escapeChar
      repeat' split
      all_goals
        refine newline?_eq_none ?_ ?_ <;> simp_all [Ne.symm]

/-- The line break behind the opening marks is dropped, and none that belongs to the string. -/
theorem getD_newline? (hs : '\n' ∉ s → newline? t = none) :
    (newline? ((if s.contains '\n' then ['\n'] else []) ++ t)).getD
      ((if s.contains '\n' then ['\n'] else []) ++ t) = t := by
  by_cases h : '\n' ∈ s
  · simp [h, newline?]
  · simp [h, hs h]

theorem readString?_basicLines (hrest : rest.head? ≠ some '"') (s : List Char) :
    readString? ((writeStyled .basicLines s).toList ++ rest) = some (String.ofList s, rest) := by
  have htext : (writeStyled .basicLines s).toList ++ rest = '"' :: '"' :: '"' ::
      ((if s.contains '\n' then ['\n'] else []) ++
        (escapeBody true 0 s ++ (basicMarks true ++ rest))) := by
    rw [toList_writeStyled, List.append_assoc, List.append_assoc, List.append_assoc]
    rfl
  rw [htext, readString?, getD_newline? fun hs => newline?_escapeBody hs rest,
    readBasic_escapeBody hrest]
  rfl

theorem readString?_literalLines (hrest : rest.head? ≠ some '\'') (hrun : longestRun '\'' 0 s ≤ 2)
    (hs : ∀ c ∈ s, needsEscape c = false) :
    readString? ((writeStyled .literalLines s).toList ++ rest) = some (String.ofList s, rest) := by
  have htext : (writeStyled .literalLines s).toList ++ rest = '\'' :: '\'' :: '\'' ::
      ((if s.contains '\n' then ['\n'] else []) ++ (s ++ '\'' :: '\'' :: '\'' :: rest)) := by
    rw [toList_writeStyled, List.append_assoc, List.append_assoc, List.append_assoc]
    rfl
  have hchars : ∀ c ∈ s, c = '\'' ∨ c = '\n' ∨ isLiteralChar c = true := by
    intro c hc
    by_cases hmark : c = '\''
    · exact .inl hmark
    · by_cases hbreak : c = '\n'
      · exact .inr (.inl hbreak)
      · exact .inr (.inr (isLiteralChar_of_needsEscape (hs c hc) hbreak hmark))
  have hfront : '\n' ∉ s → newline? (s ++ '\'' :: '\'' :: '\'' :: rest) = none := by
    intro hbreak
    cases s with
    | nil => rfl
    | cons c s =>
      rw [List.mem_cons, not_or] at hbreak
      refine newline?_eq_none ?_ ?_
      · simpa using Ne.symm hbreak.1
      · -- a carriage return needs an escape
        have hc := hs c List.mem_cons_self
        rintro heq
        obtain rfl : c = '\r' := by simpa using heq
        revert hc
        decide
  rw [htext, readString?, getD_newline? hfront, readLiteral_lines hrest hrun hchars]
  rfl

/-! ### Strings and keys -/

theorem readString?_basic (hrest : rest.head? ≠ some '"') (s : List Char) :
    readString? ((writeStyled .basic s).toList ++ rest) = some (String.ofList s, rest) := by
  rw [readString?_of_line, readLineString?_basic hrest]
  · -- behind the opening mark comes another one only if the string is empty
    intro hmarks
    rw [toList_writeStyled_basic, List.cons_append, List.cons_prefix_cons] at hmarks
    have hhead := head?_of_marks hmarks.2
    cases s with
    | nil =>
      obtain ⟨u, hu⟩ := hmarks.2
      simp [escapeBody, basicMarks] at hu
      simp [← hu] at hrest
    | cons c s =>
      by_cases hc : c = '"'
      · subst hc
        simp [escapeBody_mark] at hhead
      · rw [escapeBody_cons hc, List.append_assoc, List.append_assoc] at hhead
        exact head?_escapeChar hc _ hhead
  · rw [toList_writeStyled_basic]
    simp

theorem readString?_literal (hmark : '\'' ∉ s) (hne : s ≠ [])
    (hs : ∀ c ∈ s, isLiteralChar c = true) :
    readString? ((writeStyled .literal s).toList ++ rest) = some (String.ofList s, rest) := by
  rw [readString?_of_line, readLineString?_literal hs]
  · rw [toList_writeStyled_literal]
    simp
  · intro hmarks
    rw [toList_writeStyled_literal, List.cons_append, List.cons_prefix_cons] at hmarks
    have hhead := head?_of_marks hmarks.2
    cases s with
    | nil => exact absurd rfl hne
    | cons c s =>
      obtain rfl : c = '\'' := by simpa using hhead
      exact hmark List.mem_cons_self

/-- **Every string reads back.** -/
theorem readString?_writeString (hdouble : rest.head? ≠ some '"') (hsingle : rest.head? ≠ some '\'')
    (text : String) : readString? ((writeString text).toList ++ rest) = some (text, rest) := by
  suffices h : readString? ((writeString text).toList ++ rest) =
      some (String.ofList text.toList, rest) by rwa [String.ofList_toList] at h
  rw [writeString]
  -- each style is taken only where it has no need of what it cannot write
  rcases choose_cases text.toList with h | h | ⟨h, hmark, hbreak, hescape⟩ | ⟨h, hrun, hescape⟩
  · rw [h, readString?_basic hdouble]
  · rw [h, readString?_basicLines hdouble]
  · rw [h]
    refine readString?_literal hmark ?_ fun c hc => ?_
    · rintro hnil
      rw [hnil] at h
      cases h
    · exact isLiteralChar_of_needsEscape (hescape c hc) (fun heq => hbreak (heq ▸ hc))
        fun heq => hmark (heq ▸ hc)
  · rw [h, readString?_literalLines hsingle hrun hescape]

/-- A quoted key is a string within one line. -/
theorem readKey?_of_line {text : String} (h : s.head? = some '"' ∨ s.head? = some '\'')
    (hread : readLineString? s = some (text, rest)) : readKey? s = some (text, rest) := by
  unfold readKey?
  split
  · exact hread
  · exact hread
  · next hd hs =>
    exfalso
    cases s with
    | nil => simp at h
    | cons c s =>
      rcases h with h | h
      · exact hd s (by simpa using h)
      · exact hs s (by simpa using h)

theorem readKey?_bare (hne : s ≠ []) (hs : ∀ c ∈ s, isBareChar c = true)
    (hrest : ∀ c ∈ rest.head?, isBareChar c = false) :
    readKey? (s ++ rest) = some (String.ofList s, rest) := by
  have htake : (s ++ rest).takeWhile isBareChar = s ∧ (s ++ rest).dropWhile isBareChar = rest := by
    rw [List.takeWhile_append_of_pos hs, List.dropWhile_append_of_pos hs]
    cases rest with
    | nil => simp
    | cons c rest => simp [hrest c rfl]
  unfold readKey?
  split
  · next heq =>
    cases s with
    | nil => exact absurd rfl hne
    | cons c s =>
      obtain rfl : c = '"' := by simpa using congrArg List.head? heq
      exact absurd (hs _ List.mem_cons_self) (by decide)
  · next heq =>
    cases s with
    | nil => exact absurd rfl hne
    | cons c s =>
      obtain rfl : c = '\'' := by simpa using congrArg List.head? heq
      exact absurd (hs _ List.mem_cons_self) (by decide)
  · simp [htake, hne]

/-- **Every key reads back.** -/
theorem readKey?_writeKey (hdouble : rest.head? ≠ some '"')
    (hbare : ∀ c ∈ rest.head?, isBareChar c = false) (key : String) :
    readKey? ((writeKey key).toList ++ rest) = some (key, rest) := by
  suffices h : readKey? ((writeKey key).toList ++ rest) =
      some (String.ofList key.toList, rest) by rwa [String.ofList_toList] at h
  have hquoted : readKey? ((writeStyled .basic key.toList).toList ++ rest) =
      some (String.ofList key.toList, rest) :=
    readKey?_of_line (.inl (by rw [toList_writeStyled_basic]; rfl))
      (readLineString?_basic hdouble _)
  unfold writeKey
  simp only
  split
  · next h =>
    simp only [Bool.and_eq_true, Bool.not_eq_true', List.isEmpty_eq_false_iff,
      List.all_eq_true] at h
    exact readKey?_bare h.1 h.2 hbare
  · rcases choose_cases key.toList with h | h | ⟨h, hmark, hbreak, hescape⟩ | ⟨h, -⟩
    · rw [h]
      exact hquoted
    · rw [h]
      exact hquoted
    · rw [h]
      refine readKey?_of_line (.inr ?_) (readLineString?_literal fun c hc => ?_)
      · rw [toList_writeStyled_literal]
        rfl
      · exact isLiteralChar_of_needsEscape (hescape c hc) (fun heq => hbreak (heq ▸ hc))
          fun heq => hmark (heq ▸ hc)
    · rw [h]
      exact hquoted

end LoadGenerator.Toml
