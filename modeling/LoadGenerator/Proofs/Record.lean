/-
What is on record about a token.

The acts that name a token all belong to one connection, whether it is still live or was closed long
ago. So they tell all there is to tell about it.

* **`tally`** — the sum of an amount over acts, such as the bytes sent (`Act.sent`);
* **`Worker.Recorded`** — the bytes of a connection are those that its writes took, and it is closed
  at most once;
* **`Worker.recorded_of_reaches`** — so it is along every run.
-/
import LoadGenerator.Proofs.Tokens

namespace LoadGenerator

/-! ### What acts add up to -/

/-- The sum of an amount over acts. -/
def tally (f : Act → Nat) (acts : List Act) : Nat := total (acts.map f)

@[simp] theorem tally_nil (f : Act → Nat) : tally f [] = 0 := rfl

@[simp] theorem tally_cons (f : Act → Nat) (a : Act) (acts : List Act) :
    tally f (a :: acts) = f a + tally f acts := rfl

@[simp] theorem tally_append (f : Act → Nat) (acts more : List Act) :
    tally f (acts ++ more) = tally f acts + tally f more := by
  simp [tally]

/-! ### Kinds of dials and closes -/

/-- The connect failed at once. -/
def DialResult.isFailed : DialResult → Bool
  | .failed _ => true
  | _ => false

/-- A connection is on its way. -/
def DialResult.isOpened : DialResult → Bool
  | .opened _ => true
  | _ => false

/-- The close counts as a failure of the entry. -/
def CloseCause.isFailure : CloseCause → Bool
  | .connectFailed _ | .writeFailed _ => true
  | .terminating => false

/-- The connection was closed because the worker stops. -/
def CloseCause.isReaping : CloseCause → Bool
  | .terminating => true
  | _ => false

namespace Act

/-- The bytes that a write took. -/
def sent : Act → Nat
  | wrote _ _ _ _ (.ok count) => count
  | _ => 0

/-- The bytes that a write on one connection took. -/
def sentOn (t : Token) : Act → Nat
  | wrote s _ _ _ (.ok count) => if s = t then count else 0
  | _ => 0

/-- The bytes that a close added to the total. -/
def folded : Act → Nat
  | closed _ _ bytes _ => bytes
  | _ => 0

/-- A dial of an entry that ended in a certain way. -/
def isDialTo (i : Nat) (p : DialResult → Bool) : Act → Bool
  | dialed j result => j = i && p result
  | _ => false

/-- The close of a connection to an entry, for a certain cause. -/
def isCloseTo (i : Nat) (p : CloseCause → Bool) : Act → Bool
  | closed _ j _ cause => j = i && p cause
  | _ => false

/-- The close of a connection. -/
def isCloseOf (t : Token) : Act → Bool
  | closed s _ _ _ => s = t
  | _ => false

/-- A connection is opened. -/
def isOpening : Act → Bool
  | dialed _ (.opened _) => true
  | _ => false

/-- A connection is closed. -/
def isClosing : Act → Bool
  | closed .. => true
  | _ => false

/-! Idle acts have no part in any of these. -/

section Idle

variable {a : Act} (h : a.isIdle = true)
include h

theorem sent_of_isIdle : a.sent = 0 := by
  unfold sent
  split <;> simp_all [isIdle]

theorem sentOn_of_isIdle (t : Token) : a.sentOn t = 0 := by
  unfold sentOn
  split <;> simp_all [isIdle]

theorem folded_of_isIdle : a.folded = 0 := by
  unfold folded
  split <;> simp_all [isIdle]

theorem isDialTo_of_isIdle (i : Nat) : a.isDialTo i DialResult.isOpened = false := by
  unfold isDialTo
  split
  · next result => cases result <;> simp_all [isIdle, DialResult.isOpened]
  · rfl

theorem isCloseTo_of_isIdle (i : Nat) (p : CloseCause → Bool) : a.isCloseTo i p = false := by
  unfold isCloseTo
  split <;> simp_all [isIdle]

theorem isCloseOf_of_isIdle (t : Token) : a.isCloseOf t = false := by
  unfold isCloseOf
  split <;> simp_all [isIdle]

theorem isOpening_of_isIdle : a.isOpening = false := by
  unfold isOpening
  split <;> simp_all [isIdle]

theorem isClosing_of_isIdle : a.isClosing = false := by
  unfold isClosing
  split <;> simp_all [isIdle]

end Idle

end Act

/-- What every idle act adds nothing to, idle acts together add nothing to. -/
theorem tally_of_idle {f : Act → Nat} {acts : List Act} (hf : ∀ {a}, a.isIdle = true → f a = 0)
    (h : ∀ a ∈ acts, a.isIdle = true) : tally f acts = 0 :=
  total_map_eq_zero fun a ha => hf (h a ha)

theorem countP_of_idle {p : Act → Bool} {acts : List Act}
    (hp : ∀ {a}, a.isIdle = true → p a = false) (h : ∀ a ∈ acts, a.isIdle = true) :
    acts.countP p = 0 :=
  List.countP_eq_zero.mpr fun a ha => Bool.eq_false_iff.mp (hp (h a ha))

/-! ### The record of a token -/

namespace Worker

variable {w w' : Worker} {t : Token} {c d : Connection} {acts more : List Act}
  {chunk : Array UInt8}

/-- The acts so far tell the past of every token: how much was sent under it, and that a connection
is closed once and for all. -/
structure Recorded (acts : List Act) (w : Worker) : Prop where
  unissued : ∀ t, w.nextToken ≤ t →
    tally (Act.sentOn t) acts = 0 ∧ acts.countP (Act.isCloseOf t) = 0
  live : ∀ t c, (t, c) ∈ w.connections →
    tally (Act.sentOn t) acts = c.transmitted ∧ acts.countP (Act.isCloseOf t) = 0
  closed : ∀ t i bytes cause, Act.closed t i bytes cause ∈ acts →
    bytes = tally (Act.sentOn t) acts ∧ acts.countP (Act.isCloseOf t) = 1

/-- A token that was not closed is none of those that were. -/
theorem ne_of_closed (hopen : acts.countP (Act.isCloseOf t) = 0) {s : Token} {i bytes : Nat}
    {cause : CloseCause} (h : Act.closed s i bytes cause ∈ acts) : t ≠ s := by
  rintro rfl
  exact absurd (List.countP_eq_zero.mp hopen _ h) (by simp [Act.isCloseOf])

/-- Idle acts add nothing to the record. -/
theorem Recorded.idle (h : Recorded acts w) (hmore : ∀ a ∈ more, a.isIdle = true)
    (hconnections : w'.connections.map outline = w.connections.map outline)
    (hnext : w.nextToken ≤ w'.nextToken) : Recorded (acts ++ more) w' := by
  have hsent : ∀ t, tally (Act.sentOn t) more = 0 := fun t =>
    tally_of_idle (Act.sentOn_of_isIdle · t) hmore
  have hclosed : ∀ t, more.countP (Act.isCloseOf t) = 0 := fun t =>
    countP_of_idle (Act.isCloseOf_of_isIdle · t) hmore
  refine ⟨fun t ht => ?_, fun t c hc => ?_, fun t i bytes cause hmem => ?_⟩
  · rw [tally_append, List.countP_append, hsent, hclosed]
    exact h.unissued t (Nat.le_trans hnext ht)
  · have hmem : outline (t, c) ∈ w'.connections.map outline := List.mem_map_of_mem hc
    -- the books of the connection were there before
    rw [hconnections, List.mem_map] at hmem
    obtain ⟨⟨s, d⟩, hd, heq⟩ := hmem
    obtain ⟨rfl, -, hbytes⟩ : s = t ∧ d.entry = c.entry ∧ d.transmitted = c.transmitted := by
      simpa [outline] using heq
    rw [tally_append, List.countP_append, hsent, hclosed, ← hbytes]
    exact h.live s d hd
  · rw [tally_append, List.countP_append, hsent, hclosed]
    rcases List.mem_append.mp hmem with hmem | hmem
    · exact h.closed t i bytes cause hmem
    · exact absurd (hmore _ hmem) (by simp [Act.isIdle])

theorem Recorded.adopt (h : Recorded acts w) (i : Nat) (s : Token) :
    Recorded (acts ++ [.dialed i (.opened s)]) w.adopt := by
  have hadd : ∀ t, tally (Act.sentOn t) (acts ++ [.dialed i (.opened s)]) =
      tally (Act.sentOn t) acts ∧
      (acts ++ [Act.dialed i (.opened s)]).countP (Act.isCloseOf t) =
        acts.countP (Act.isCloseOf t) := fun t => by
    simp [Act.sentOn, Act.isCloseOf]
  refine ⟨fun t ht => ?_, fun t c hc => ?_, fun t j bytes cause hmem => ?_⟩
  · rw [(hadd t).1, (hadd t).2]
    exact h.unissued t (Nat.le_of_succ_le ht)
  · rw [(hadd t).1, (hadd t).2]
    have hc : (t, c) ∈ w.connections ++ [_] := hc
    rcases List.mem_append.mp hc with hc | hc
    · exact h.live t c hc
    · -- the new connection has the next token, of which there is no record yet
      obtain ⟨rfl, rfl⟩ := Prod.mk.inj (List.mem_singleton.mp hc)
      exact h.unissued _ (Nat.le_refl _)
  · rw [(hadd t).1, (hadd t).2]
    exact h.closed t j bytes cause (by simpa using hmem)

/-- A write adds its bytes to the record of its own token. -/
theorem Recorded.feed (h : Recorded acts w) (hs : w.Sound) (hc : w.connections.get? t = some c)
    {count : Nat} (hbytes : d.transmitted = c.transmitted + count) (i position : Nat) :
    Recorded (acts ++ [.wrote t i position chunk (.ok count)]) (w.setConnection t d) := by
  have hsent : ∀ s, tally (Act.sentOn s) (acts ++ [.wrote t i position chunk (.ok count)]) =
      tally (Act.sentOn s) acts + if t = s then count else 0 := fun s => by
    rw [tally_append]
    rfl
  have hclosed : ∀ s,
      (acts ++ [Act.wrote t i position chunk (.ok count)]).countP (Act.isCloseOf s) =
        acts.countP (Act.isCloseOf s) := fun s => by
    rw [List.countP_append]
    rfl
  have hlive := h.live t c (Connections.mem_of_get? hc)
  refine ⟨fun s hle => ?_, fun s c' hc' => ?_, fun s j bytes cause hmem => ?_⟩
  · have hne : t ≠ s := by
      rintro rfl
      exact Nat.not_lt_of_le hle (hs.lt_next hc)
    rw [hsent, hclosed, if_neg hne]
    exact h.unissued s hle
  · rw [hsent, hclosed]
    rcases (Connections.mem_set_iff hs.nodup hc).mp hc' with heq | ⟨hmem, hne⟩
    · obtain ⟨rfl, rfl⟩ := Prod.mk.inj heq
      rw [if_pos rfl, hbytes, hlive.1]
      exact ⟨rfl, hlive.2⟩
    · rw [if_neg (Ne.symm hne)]
      exact h.live s c' hmem
  · have hold : Act.closed s j bytes cause ∈ acts := by simpa using hmem
    rw [hsent, hclosed, if_neg (ne_of_closed hlive.2 hold)]
    exact h.closed s j bytes cause hold

/-- A close is the first of its token, and tells what was sent under it. -/
theorem Recorded.close (h : Recorded acts w) (hissued : t < w.nextToken)
    (hc : w.connections.get? t = some c) (i : Nat) (cause : CloseCause) :
    Recorded (acts ++ [.closed t i c.transmitted cause]) (w.fold t c) := by
  have hsent : ∀ s, tally (Act.sentOn s) (acts ++ [.closed t i c.transmitted cause]) =
      tally (Act.sentOn s) acts := fun s => by
    rw [tally_append]
    rfl
  have hclosed : ∀ s, (acts ++ [Act.closed t i c.transmitted cause]).countP (Act.isCloseOf s) =
      acts.countP (Act.isCloseOf s) + if t = s then 1 else 0 := fun s => by
    simp [Act.isCloseOf, List.countP_cons]
  have hlive := h.live t c (Connections.mem_of_get? hc)
  refine ⟨fun s hle => ?_, fun s c' hc' => ?_, fun s j bytes cause' hmem => ?_⟩
  · have hne : t ≠ s := by
      rintro rfl
      exact Nat.not_lt_of_le hle hissued
    rw [hsent, hclosed, if_neg hne]
    exact h.unissued s hle
  · rw [connections_fold, Connections.mem_remove] at hc'
    rw [hsent, hclosed, if_neg (Ne.symm hc'.2)]
    exact h.live s c' hc'.1
  · rw [hsent, hclosed]
    rcases List.mem_append.mp hmem with hold | hnew
    · rw [if_neg (ne_of_closed hlive.2 hold)]
      exact h.closed s j bytes cause' hold
    · -- the token just closed was live until now
      obtain ⟨rfl, rfl, rfl, rfl⟩ : s = t ∧ j = i ∧ bytes = c.transmitted ∧ cause' = cause := by
        simpa using hnew
      rw [if_pos rfl, hlive.1, hlive.2]
      exact ⟨rfl, rfl⟩

theorem Recorded.move (hs : w.Sound) (h : Recorded acts w) (m : Move w more w') :
    Recorded (acts ++ more) w' := by
  cases m.kind hs with
  | idle hmore hconnections hnext => exact h.idle hmore hconnections hnext
  | opened => exact h.adopt ..
  | fed ha hc _ hbytes =>
    rename_i a t c d position count chunk _
    -- the connect is asked for first, and that is idle
    have hidle : Recorded (acts ++ [a]) w := h.idle (by simpa using ha) rfl (Nat.le_refl _)
    rw [List.append_cons]
    exact hidle.feed hs hc hbytes c.entry position
  | closed hmore hc hconnections hnext =>
    have hidle := h.idle hmore (congrArg _ hconnections) (Nat.le_of_eq hnext.symm)
    have hissued := hs.lt_next hc
    rw [← hnext] at hissued
    rw [← hconnections] at hc
    rw [← List.append_assoc]
    exact hidle.close hissued hc _ _

theorem Fresh.recorded (h : w.Fresh) : Recorded [] w where
  unissued := by simp
  live := by simp [h.connections]
  closed := by simp

/-- **Along every run the record of each token is complete.** -/
theorem recorded_of_reaches (hw : w.Fresh) (h : w.Reaches acts w') : Recorded acts w' := by
  induction h with
  | refl => exact hw.recorded
  | step h m ih => exact ih.move (hw.sound.reaches h) m

/-- No token is closed twice. -/
theorem Recorded.closes_le_one (h : Recorded acts w) (t : Token) :
    acts.countP (Act.isCloseOf t) ≤ 1 := by
  rcases Nat.eq_zero_or_pos (acts.countP (Act.isCloseOf t)) with hzero | hpos
  · omega
  · obtain ⟨a, ha, hclose⟩ := List.countP_pos_iff.mp hpos
    cases a with
    | closed s i bytes cause =>
      obtain rfl : s = t := by simpa [Act.isCloseOf] using hclose
      exact Nat.le_of_eq (h.closed s i bytes cause ha).2
    | _ => exact absurd hclose Bool.false_ne_true

end Worker

end LoadGenerator
