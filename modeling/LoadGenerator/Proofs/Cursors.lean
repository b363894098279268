/-
The next chunk depends only on how much was sent.

A record moves the cursor on by any number of bytes, and only a look-up brings it back into the
payload. So the same total can stand in many cursors, one for each way to split it and to look up in
between. They differ by whole laps, which the next look-up takes away.

* **`CursorCall`** — a look-up of a chunk, or the record of a write, of any size;
* **`Connection.performAll`** — such calls in a row, as long as their sums fit machine words;
* **`Connection.InStep`** — the cursor stands where the counter says it should, up to whole laps,
  and never ahead of it. So the counter alone decides whether a call has a result
  (`InStep.performAll_eq_none_iff`);
* **`InStep.cursor_seek`**, **`InStep.toList_nextChunk`** — where a look-up leaves the cursor, and
  what it offers, in terms of the counter;
* **`Connection.next_chunk_follows_total`** — so any two ways to the same total have the same chunk
  next.
-/
import LoadGenerator.Proofs.Tokens

namespace LoadGenerator

/-! ### Chunks -/

namespace Payload

variable (p : Payload)

theorem chunk_zero : p.chunk 0 = p.data := Array.extract_size

/-- From anywhere the end of the lap is a whole number of laps away from the start. -/
theorem add_rest_mod (sent : Nat) : (sent + (p.size - sent % p.size)) % p.size = 0 := by
  have hlt : sent % p.size < p.size := Nat.mod_lt _ p.size_pos
  have hsplit : p.size * (sent / p.size) + sent % p.size = sent := Nat.div_add_mod _ _
  have hlaps : sent + (p.size - sent % p.size) = p.size * (sent / p.size + 1) := by
    rw [Nat.mul_succ]
    omega
  rw [hlaps, Nat.mul_mod_right]

end Payload

/-! ### Calls -/

/-- What moves a cursor: a look-up of the next chunk, or the record of a write, of any size. -/
inductive CursorCall where
  | lookUp
  | record (count : Nat)
  deriving DecidableEq, Repr

/-- The bytes that a call puts on record. -/
def CursorCall.count : CursorCall → Nat
  | lookUp => 0
  | record count => count

/-- The bytes that several calls put on record. -/
def recorded (calls : List CursorCall) : Nat := total (calls.map CursorCall.count)

theorem recorded_cons (call : CursorCall) (calls : List CursorCall) :
    recorded (call :: calls) = call.count + recorded calls := rfl

theorem recorded_lookUp_record (count : Nat) : recorded [.lookUp, .record count] = count := by
  simp [recorded, CursorCall.count]

namespace Connection

/-- What a look-up offers. -/
def nextChunk (c : Connection) (p : Payload) : Array UInt8 := p.chunk (c.seek p).cursor

/-- The connection after a call. A sum that does not fit a machine word has no result. -/
def perform (p : Payload) (c : Connection) : CursorCall → Option Connection
  | .lookUp => some (c.seek p)
  | .record count => if c.hasRoomFor count then some (c.record count) else none

/-- The connection after several calls. -/
def performAll (p : Payload) (c : Connection) (calls : List CursorCall) : Option Connection :=
  calls.foldlM (perform p) c

variable {p : Payload} {c d : Connection} {call : CursorCall} {calls : List CursorCall}

theorem hasRoomFor_iff {count : Nat} :
    c.hasRoomFor count = true ↔
      c.cursor + count < wordRange ∧ c.transmitted + count < wordRange := by
  rw [hasRoomFor, Bool.and_eq_true, decide_eq_true_iff, decide_eq_true_iff]

theorem perform_cases (h : c.perform p call = some d) :
    (call = .lookUp ∧ d = c.seek p) ∨
      ∃ count, call = .record count ∧ c.cursor + count < wordRange ∧
        c.transmitted + count < wordRange ∧ d = c.record count := by
  cases call with
  | lookUp => exact .inl ⟨rfl, (Option.some.inj h).symm⟩
  | record count =>
    rw [perform] at h
    split at h
    · next hroom =>
      obtain ⟨hcursor, htransmitted⟩ := hasRoomFor_iff.mp hroom
      exact .inr ⟨count, rfl, hcursor, htransmitted, (Option.some.inj h).symm⟩
    · cases h

@[simp] theorem nextChunk_seek (c : Connection) (p : Payload) :
    (c.seek p).nextChunk p = c.nextChunk p := by
  rw [nextChunk, nextChunk, seek_seek]

theorem performAll_append_lookUp (c : Connection) (p : Payload) (calls : List CursorCall) :
    c.performAll p (calls ++ [.lookUp]) = (c.performAll p calls).map fun d => d.seek p := by
  rw [performAll, List.foldlM_append, Option.bind_eq_bind, Option.map_eq_bind]
  rfl

/-! ### Cursor and counter -/

/-- The cursor stands where the counter says it should, up to whole laps, and not ahead of it. -/
structure InStep (p : Payload) (c : Connection) : Prop where
  le : c.cursor ≤ c.transmitted
  mod_eq : c.cursor % p.size = c.transmitted % p.size
  lt : c.transmitted < wordRange

namespace InStep

theorem fresh (p : Payload) (remote : SocketAddress) (entry : Nat) :
    InStep p { remote, entry } :=
  ⟨Nat.le_refl 0, rfl, twoTo_pos 64⟩

theorem seek (h : c.InStep p) : (c.seek p).InStep p := by
  refine ⟨?_, ?_, h.lt⟩
  · calc p.rewind c.cursor = c.cursor % p.size := p.rewind_eq_mod _
      _ ≤ c.cursor := Nat.mod_le _ _
      _ ≤ c.transmitted := h.le
  · calc p.rewind c.cursor % p.size = c.cursor % p.size := by
          rw [p.rewind_eq_mod, Nat.mod_mod]
      _ = c.transmitted % p.size := h.mod_eq

theorem record (h : c.InStep p) {count : Nat} (hroom : c.transmitted + count < wordRange) :
    (c.record count).InStep p := by
  refine ⟨Nat.add_le_add_right h.le count, ?_, hroom⟩
  show (c.cursor + count) % p.size = (c.transmitted + count) % p.size
  rw [Nat.add_mod, h.mod_eq, ← Nat.add_mod]

/-- What a call preserves, and what it adds to the counter. -/
theorem perform (h : c.InStep p) (hcall : c.perform p call = some d) :
    d.InStep p ∧ d.transmitted = c.transmitted + call.count := by
  rcases perform_cases hcall with ⟨rfl, rfl⟩ | ⟨count, rfl, -, hroom, rfl⟩
  · exact ⟨h.seek, rfl⟩
  · exact ⟨h.record hroom, rfl⟩

/-- The cursor is not ahead of the counter, so it does not run out of its word before. -/
theorem exists_perform (h : c.InStep p) (hroom : c.transmitted + call.count < wordRange) :
    ∃ d, c.perform p call = some d := by
  cases call with
  | lookUp => exact ⟨c.seek p, rfl⟩
  | record count =>
    have hcursor : c.cursor + count < wordRange :=
      Nat.lt_of_le_of_lt (Nat.add_le_add_right h.le count) hroom
    exact ⟨c.record count, if_pos (hasRoomFor_iff.mpr ⟨hcursor, hroom⟩)⟩

/-- What calls in a row preserve, and what they add to the counter. -/
theorem performAll (h : c.InStep p) (hcalls : c.performAll p calls = some d) :
    d.InStep p ∧ d.transmitted = c.transmitted + recorded calls := by
  -- step by step: the cursor stays in step with the counter, which grows by what is recorded
  induction calls generalizing c with
  | nil =>
    obtain rfl : c = d := Option.some.inj hcalls
    exact ⟨h, rfl⟩
  | cons call calls ih =>
    rw [Connection.performAll, List.foldlM_cons, Option.bind_eq_bind, Option.bind_eq_some_iff]
      at hcalls
    obtain ⟨e, hcall, hrest⟩ := hcalls
    obtain ⟨he, hcount⟩ := h.perform hcall
    obtain ⟨hd, hsum⟩ := ih he hrest
    refine ⟨hd, ?_⟩
    rw [hsum, hcount, recorded_cons, Nat.add_assoc]

theorem exists_performAll (h : c.InStep p) (hroom : c.transmitted + recorded calls < wordRange) :
    ∃ d, c.performAll p calls = some d := by
  induction calls generalizing c with
  | nil => exact ⟨c, rfl⟩
  | cons call calls ih =>
    rw [recorded_cons] at hroom
    -- the first call fits since all of them do
    have hfirst : c.transmitted + call.count < wordRange := by omega
    obtain ⟨e, hcall⟩ := h.exists_perform hfirst
    obtain ⟨he, hcount⟩ := h.perform hcall
    obtain ⟨d, hrest⟩ := ih he (by omega)
    refine ⟨d, ?_⟩
    rw [Connection.performAll, List.foldlM_cons, hcall]
    exact hrest

/-- Calls have no result exactly when their total does not fit the counter. -/
theorem performAll_eq_none_iff (h : c.InStep p) :
    c.performAll p calls = none ↔ wordRange ≤ c.transmitted + recorded calls := by
  constructor
  · intro hnone
    -- the two directions use the same sum: whatever fits can be performed, and nothing else can
    refine Nat.le_of_not_lt fun hroom => ?_
    obtain ⟨d, hsome⟩ := h.exists_performAll hroom
    cases hnone.symm.trans hsome
  · intro hfull
    refine Option.eq_none_iff_forall_ne_some.mpr fun d hsome => ?_
    obtain ⟨hd, hsum⟩ := h.performAll hsome
    have hlt : d.transmitted < wordRange := hd.lt
    omega

/-! ### Look-ups -/

theorem cursor_seek (h : c.InStep p) : (c.seek p).cursor = c.transmitted % p.size :=
  (p.rewind_eq_mod c.cursor).trans h.mod_eq

/-- A look-up offers the payload from there to its end. -/
theorem toList_nextChunk (h : c.InStep p) :
    (c.nextChunk p).toList = p.data.toList.drop (c.transmitted % p.size) := by
  rw [nextChunk, p.toList_chunk, h.cursor_seek]

theorem size_nextChunk (h : c.InStep p) :
    (c.nextChunk p).size = p.size - c.transmitted % p.size := by
  rw [nextChunk, p.size_chunk, h.cursor_seek]

/-- The counter alone decides what is offered. -/
theorem nextChunk_congr (hc : c.InStep p) (hd : d.InStep p) (h : d.transmitted = c.transmitted) :
    (d.seek p).cursor = (c.seek p).cursor ∧ d.nextChunk p = c.nextChunk p := by
  have hcursor : (d.seek p).cursor = (c.seek p).cursor := by
    rw [hc.cursor_seek, hd.cursor_seek, h]
  exact ⟨hcursor, congrArg p.chunk hcursor⟩

/-- Calls that bring another connection as far as this one bring it to the same chunk. -/
theorem exists_same_chunk (hc : c.InStep p) (hd : d.InStep p)
    (h : d.transmitted + recorded calls = c.transmitted) :
    ∃ e, d.performAll p calls = some e ∧
      (e.seek p).cursor = (c.seek p).cursor ∧ e.nextChunk p = c.nextChunk p := by
  have hroom : d.transmitted + recorded calls < wordRange := h ▸ hc.lt
  obtain ⟨e, hcalls⟩ := hd.exists_performAll hroom
  obtain ⟨he, hsum⟩ := hd.performAll hcalls
  exact ⟨e, hcalls, hc.nextChunk_congr he (hsum.trans h)⟩

/-- When the whole chunk is recorded, the next look-up is back at the start, and offers all of the
payload. -/
theorem exists_next_lap (h : c.InStep p)
    (hroom : c.transmitted + (c.nextChunk p).size < wordRange) :
    ∃ d, c.performAll p [.lookUp, .record (c.nextChunk p).size, .lookUp] = some d ∧
      d.cursor = 0 ∧ d.nextChunk p = p.data := by
  rw [← recorded_lookUp_record (c.nextChunk p).size] at hroom
  obtain ⟨e, hcalls⟩ := h.exists_performAll hroom
  obtain ⟨he, hsum⟩ := h.performAll hcalls
  -- the record has filled up the lap
  have hstart : (e.seek p).cursor = 0 := by
    rw [he.cursor_seek, hsum, recorded_lookUp_record, h.size_nextChunk, p.add_rest_mod]
  refine ⟨e.seek p, ?_, hstart, ?_⟩
  · have hlast := performAll_append_lookUp c p [.lookUp, .record (c.nextChunk p).size]
    rwa [hcalls] at hlast
  · rw [nextChunk, seek_seek, hstart, p.chunk_zero]

end InStep

/-! ### Equal totals -/

/-- **The next chunk depends only on how much was sent.** Let a connection be new, and let look-ups
and records of any sizes follow, as many as one likes and in any order. They have a result exactly
when their total fits the counter. Then the counter is the total and the cursor is congruent to it,
and a look-up leaves the cursor inside the payload and offers all from there to its end; a second
one right after it changes nothing.

Any other calls on any other new connection that come to the same total have the same chunk next.
And when a chunk is recorded whole, the next one starts at the beginning. -/
theorem next_chunk_follows_total (p : Payload) (remote : SocketAddress) (entry : Nat)
    (calls : List CursorCall) :
    let fresh : Connection := { remote, entry }
    (fresh.performAll p calls = none ↔ wordRange ≤ recorded calls) ∧
    ∀ c, fresh.performAll p calls = some c →
      c.transmitted = recorded calls ∧ c.cursor % p.size = c.transmitted % p.size ∧
      ((c.seek p).cursor = c.transmitted % p.size ∧ (c.seek p).cursor < p.size ∧
        (c.nextChunk p).toList = p.data.toList.drop (c.transmitted % p.size)) ∧
      ((c.seek p).seek p = c.seek p ∧ (c.seek p).nextChunk p = c.nextChunk p) ∧
      (∀ (remote' : SocketAddress) (entry' : Nat) (others : List CursorCall),
        recorded others = recorded calls →
          ∃ d, ({ remote := remote', entry := entry' } : Connection).performAll p others = some d ∧
            (d.seek p).cursor = (c.seek p).cursor ∧ d.nextChunk p = c.nextChunk p) ∧
      (c.transmitted + (c.nextChunk p).size < wordRange →
        ∃ d, c.performAll p [.lookUp, .record (c.nextChunk p).size, .lookUp] = some d ∧
          d.cursor = 0 ∧ d.nextChunk p = p.data) := by
  intro fresh
  have hfresh : fresh.InStep p := .fresh p remote entry
  have hnone : fresh.performAll p calls = none ↔ wordRange ≤ recorded calls := by
    rw [hfresh.performAll_eq_none_iff, Nat.zero_add]
  refine ⟨hnone, fun c hc => ?_⟩
  obtain ⟨h, hsum⟩ := hfresh.performAll hc
  rw [Nat.zero_add] at hsum
  refine ⟨hsum, h.mod_eq, ⟨h.cursor_seek, c.cursor_seek_lt p, h.toList_nextChunk⟩,
    ⟨c.seek_seek p, c.nextChunk_seek p⟩, fun remote' entry' others htotal => ?_, h.exists_next_lap⟩
  -- another connection with the same total is as far in the payload
  have hother : InStep p { remote := remote', entry := entry' } := .fresh p remote' entry'
  refine h.exists_same_chunk hother ?_
  rw [Nat.zero_add, htotal, hsum]

/-- Seven bytes with the payload `abc`, in three records with look-ups between them or in one
without any: the cursors are two laps apart, and both offer `bc` next, and `abc` after it. -/
theorem next_chunk_follows_total_seven :
    let p := Sample.setup.payload
    let fresh : Connection := { remote := Sample.address, entry := 0 }
    ∃ c d e, fresh.performAll p [.lookUp, .record 2, .record 4, .lookUp, .record 1] = some c ∧
      fresh.performAll p [.record 7] = some d ∧ c.cursor = 1 ∧ d.cursor = 7 ∧
      c.transmitted = 7 ∧ d.nextChunk p = c.nextChunk p ∧ (c.nextChunk p).toList = [98, 99] ∧
      c.performAll p [.lookUp, .record 2, .lookUp] = some e ∧ e.nextChunk p = p.data := by
  intro p fresh
  let c : Connection := { fresh with cursor := 1, transmitted := 7 }
  have hc : fresh.performAll p [.lookUp, .record 2, .record 4, .lookUp, .record 1] = some c := by
    decide
  obtain ⟨-, hall⟩ := next_chunk_follows_total p Sample.address 0
    [.lookUp, .record 2, .record 4, .lookUp, .record 1]
  obtain ⟨hsum, -, ⟨-, -, hchunk⟩, -, hothers, hlap⟩ := hall c hc
  obtain ⟨d, hd, -, hsame⟩ := hothers Sample.address 0 [.record 7] rfl
  obtain ⟨e, he, -, hnext⟩ := hlap (by decide)
  -- without a look-up the cursor was never moved back
  have hcursor : d.cursor = 7 := by
    obtain rfl : { fresh with cursor := 7, transmitted := 7 } = d := Option.some.inj hd
    rfl
  exact ⟨c, d, e, hc, hd, rfl, hcursor, hsum, hsame, hchunk.trans (by decide), he, hnext⟩

end Connection

end LoadGenerator
